import RuleStack.Proofs.Json.Written
/-!
For each record of a definition, `Tidy` says that what it holds of foreign JSON is in normal form,
is not null where null means nothing, and has no key of a field where keys are kept beside the
fields. What is read is tidy, and what is tidy is read back (`Rule.listOfJson_roundTrip`).
-/
set_option autoImplicit false

namespace RuleStack

open Json

namespace Json

theorem mem_optionalMember_iff (name : String) (value : Option Json) (e : String × Json) :
    e ∈ optionalMember name value ↔ e.1 = name ∧ value = some e.2 := by
  cases value <;> simp [optionalMember, Prod.ext_iff, eq_comm]

end Json

namespace Parameter

def Tidy (p : Parameter) : Prop := record.Beside p.extra

theorem keepsIn_extra : record.KeepsIn extra fun m p => { p with extra := m } := {}

theorem read_toJson {p : Parameter} (h : p.Tidy) : record.read p.toJson.normalize = .ok p := by
  refine Record.Written.read_normalize keepsIn_extra.orderless ?_
  rw [List.append_assoc]
  exact .text rfl (.text rfl (keepsIn_extra.written h rfl))

theorem tidy_of_decoded {p : Parameter} (h : Decoded record.read p) : p.Tidy := by
  refine keepsIn_extra.decoded_induction (P := Tidy) record.beside_empty ?_
    (fun _ _ _ hkey hv hs => hs.insert hkey hv) h
  exact ⟨.optional fun _ _ _ _ _ hs => hs, .optional fun _ _ _ _ _ hs => hs⟩

end Parameter

namespace Statement

structure Tidy (s : Statement) : Prop where
  effect : ∀ v ∈ s.effect, v.Solid
  action : ∀ v ∈ s.action, v.Solid
  notAction : ∀ v ∈ s.notAction, v.Solid
  resource : ∀ v ∈ s.resource, v.Solid
  notResource : ∀ v ∈ s.notResource, v.Solid
  extra : record.Beside s.extra

theorem keepsIn_extra : record.KeepsIn extra fun m s => { s with extra := m } := {}

theorem read_toJson {s : Statement} (h : s.Tidy) : record.read s.toJson.normalize = .ok s := by
  refine Record.Written.read_normalize keepsIn_extra.orderless ?_
  simp only [List.append_assoc]
  exact .any h.effect rfl (.any h.action rfl (.any h.notAction rfl (.any h.resource rfl
    (.any h.notResource rfl (keepsIn_extra.written h.extra rfl)))))

theorem tidy_of_decoded {s : Statement} (h : Decoded record.read s) : s.Tidy := by
  refine keepsIn_extra.decoded_induction (P := Tidy)
    ⟨nofun, nofun, nofun, nofun, nofun, record.beside_empty⟩ ?_
    (fun _ _ _ hkey hv hs => { hs with extra := hs.extra.insert hkey hv }) h
  exact ⟨
    .optional fun _ _ _ hv hx hs => { hs with effect := solid_of_readOption hv hx },
    .optional fun _ _ _ hv hx hs => { hs with action := solid_of_readOption hv hx },
    .optional fun _ _ _ hv hx hs => { hs with notAction := solid_of_readOption hv hx },
    .optional fun _ _ _ hv hx hs => { hs with resource := solid_of_readOption hv hx },
    .optional fun _ _ _ hv hx hs => { hs with notResource := solid_of_readOption hv hx }⟩

end Statement

namespace EventTrigger

def Tidy (e : EventTrigger) : Prop := ∀ v ∈ e.pattern, v.Solid

theorem orderless_record : record.Orderless :=
  Record.Separate.orderless { fields := trivial } nofun

theorem read_toJson {e : EventTrigger} (h : e.Tidy) : record.read e.toJson.normalize = .ok e :=
  Record.Written.read_normalize orderless_record (.of_append_nil (.any h rfl (.nil record e)))

theorem tidy_of_decoded {e : EventTrigger} (h : Decoded record.read e) : e.Tidy :=
  Record.decoded_induction (r := record) (P := Tidy) nofun
    (.optional fun _ _ _ hv hx _ => solid_of_readOption hv hx) nofun h

end EventTrigger

namespace GatewayTrigger

structure Tidy (g : GatewayTrigger) : Prop where
  methodResponses : ∀ vs ∈ g.methodResponses, ∀ v ∈ vs, v.Normal
  integrationResponses : ∀ vs ∈ g.integrationResponses, ∀ v ∈ vs, v.Normal

theorem orderless_record : record.Orderless :=
  Record.Separate.orderless {} nofun

theorem read_toJson {g : GatewayTrigger} (h : g.Tidy) : record.read g.toJson.normalize = .ok g := by
  refine Record.Written.read_normalize orderless_record (.of_append_nil ?_)
  simp only [List.append_assoc]
  refine .text rfl (.member rfl (.option (fun vs hvs => ?_) rfl
    (.option (fun vs hvs => ?_) rfl (.nil record g))))
  · exact ⟨nofun, readList_of_normal (h.methodResponses vs hvs)⟩
  · exact ⟨nofun, readList_of_normal (h.integrationResponses vs hvs)⟩

theorem tidy_of_decoded {g : GatewayTrigger} (h : Decoded record.read g) : g.Tidy := by
  have hresponses {v : Json} (hv : v.Normal) {x : Option (List Json)}
      (hx : readOption (readList .ok) v = .ok x) : ∀ vs ∈ x, ∀ w ∈ vs, w.Normal :=
    fun vs hvs w hw => (decoded_ok_iff w).1 (decoded_of_readOption_readList hv hx vs hvs w hw)
  refine Record.decoded_induction (r := record) (P := Tidy) ⟨nofun, nofun⟩ ?_ nofun h
  exact ⟨
    .optional fun _ _ _ _ _ hs => { hs with },
    .optional fun _ _ _ _ _ hs => { hs with },
    .optional fun _ _ _ hv hx hs => { hs with methodResponses := hresponses hv hx },
    .optional fun _ _ _ hv hx hs => { hs with integrationResponses := hresponses hv hx }⟩

end GatewayTrigger

namespace Rule

/-- All that the rule holds is read as it stands. -/
structure Tidy (r : Rule) : Prop where
  parameters : ∀ e ∈ r.parameters.entries, e.2.Tidy
  statements : ∀ ss ∈ r.statements, ∀ s ∈ ss, s.Tidy
  event : ∀ e ∈ r.event, e.Tidy
  gateway : ∀ g ∈ r.gateway, g.Tidy

theorem orderless_record : record.Orderless :=
  Record.Separate.orderless {} nofun

theorem read_toJson {r : Rule} (h : r.Tidy) : record.read r.toJson.normalize = .ok r := by
  refine Record.Written.read_normalize orderless_record (.of_append_nil ?_)
  simp only [List.append_assoc]
  refine .text rfl (.text rfl (.map ?_ rfl ?_))
  · exact readMap_normalize fun e he => Parameter.read_toJson (h.parameters e he)
  refine .option (fun ss hss => ⟨nofun, ?_⟩) rfl ?_
  · exact readList_normalize fun s hs => Statement.read_toJson (h.statements ss hss s hs)
  refine .option (fun e he => ⟨nofun, EventTrigger.read_toJson (h.event e he)⟩) rfl ?_
  refine .text rfl (.flag (fun topic (r : Rule) => { r with topic := topic }) rfl rfl ?_)
  refine .option (fun g hg => ⟨nofun, GatewayTrigger.read_toJson (h.gateway g hg)⟩) rfl ?_
  exact .option (fun _ _ => ⟨nofun, rfl⟩) rfl
    (.option (fun _ _ => ⟨nofun, rfl⟩) rfl (.nil record r))

theorem tidy_of_decoded {r : Rule} (h : Decoded record.read r) : r.Tidy := by
  refine Record.decoded_induction (r := record) (P := Tidy) ⟨nofun, nofun, nofun, nofun⟩ ?_ nofun h
  refine ⟨.optional fun _ _ _ _ _ hs => { hs with }, .optional fun _ _ _ _ _ hs => { hs with },
    .optional fun _ _ _ hv hx hs => ?parameters, .optional fun _ _ _ hv hx hs => ?statements,
    .optional fun _ _ _ hv hx hs => ?event, .optional fun _ _ _ _ _ hs => { hs with },
    .optional fun _ _ _ _ _ hs => { hs with }, .optional fun _ _ _ hv hx hs => ?gateway,
    .optional fun _ _ _ _ _ hs => { hs with }, .optional fun _ _ _ _ _ hs => { hs with }⟩
  case parameters =>
    have hparameters e he := Parameter.tidy_of_decoded (decoded_of_readMap hv hx e he)
    exact { hs with parameters := hparameters }
  case statements =>
    have hstatements ss hss s hmem :=
      Statement.tidy_of_decoded (decoded_of_readOption_readList hv hx ss hss s hmem)
    exact { hs with statements := hstatements }
  case event =>
    have hevent e he := EventTrigger.tidy_of_decoded (decoded_of_readOption hv hx e he)
    exact { hs with event := hevent }
  case gateway =>
    have hgateway g hg := GatewayTrigger.tidy_of_decoded (decoded_of_readOption hv hx g hg)
    exact { hs with gateway := hgateway }

theorem tidy_of_ofJson {v : Json} (hv : v.Normal) {r : Rule} (h : ofJson v = .ok r) : r.Tidy := by
  cases v with
  | obj members =>
    have hmembers := (Outcome.mapError_eq_ok_iff _ _ _).1 h
    obtain ⟨_, -, hmembers⟩ := (Outcome.bind_eq_ok_iff _ _ _).1 hmembers
    obtain ⟨_, -, hmembers⟩ := (Outcome.bind_eq_ok_iff _ _ _).1 hmembers
    exact tidy_of_decoded ⟨.obj members, hv, (Outcome.mapError_eq_ok_iff _ _ _).1 hmembers⟩
  | _ => cases h

/-- The shapes that are checked before a rule is read are those in which it is written. -/
theorem checks_normalize (r : Rule) {members : List (String × Json)}
    (h : r.toJson.normalize = .obj members) :
    checkStatements members = .ok () ∧ checkParameters members = .ok () := by
  constructor
  · rw [checkStatements]
    cases hlookup : members.lookup "statements" with
    | none => rfl
    | some v =>
      obtain ⟨w, hw, rfl⟩ := exists_member_of_lookup h hlookup
      have hlist : ∃ ss, r.statements = some ss ∧ .arr (ss.map Statement.toJson) = w := by
        simpa [mem_optionalMember_iff] using hw
      obtain ⟨ss, -, rfl⟩ := hlist
      rfl
  · rw [checkParameters]
    cases hlookup : members.lookup "parameters" with
    | none => rfl
    | some v =>
      obtain ⟨w, hw, rfl⟩ := exists_member_of_lookup h hlookup
      have hobject : r.parameters.isEmpty = false ∧ parametersJson r.parameters = w := by
        simpa [mem_optionalMember_iff] using hw
      obtain ⟨-, rfl⟩ := hobject
      rfl

theorem ofJson_toJson {r : Rule} (h : r.Tidy) : ofJson r.toJson.normalize = .ok r := by
  obtain ⟨members, hmembers⟩ : ∃ members, r.toJson.normalize = .obj members := ⟨_, rfl⟩
  obtain ⟨hstatements, hparameters⟩ := r.checks_normalize hmembers
  have hread := read_toJson h
  rw [hmembers] at hread ⊢
  replace hread : record.readMembers members = .ok r := hread
  rw [ofJson, ofMembers, hstatements, hparameters, hread]
  rfl

/-- Rules that are read are the tidy ones. -/
theorem decoded_iff_tidy (r : Rule) : Decoded ofJson r ↔ r.Tidy :=
  ⟨fun ⟨_, hv, h⟩ => tidy_of_ofJson hv h, fun h => ⟨_, normal_normalize _, ofJson_toJson h⟩⟩

theorem decoded_of_listOfJson {v : Json} (hv : v.Normal) {rules : List Rule}
    (h : listOfJson v = .ok rules) : ∀ r ∈ rules, Decoded ofJson r := by
  cases v with
  | arr items =>
    rw [normal_arr] at hv
    intro r hr
    obtain ⟨item, hitem, hread⟩ := Outcome.exists_of_mem_mapM h hr
    exact ⟨item, hv item hitem, hread⟩
  | obj members =>
    obtain ⟨r, hr, rfl⟩ := (Outcome.map_eq_ok_iff _ _ _).1 h
    exact List.forall_mem_singleton.2 ⟨_, hv, hr⟩
  | _ => cases h

/-- A document of rules, written as the list of them, is read as these rules again. -/
theorem listOfJson_roundTrip {v : Json} (hv : v.Normal) {rules : List Rule}
    (h : listOfJson v = .ok rules) :
    listOfJson (Json.arr (rules.map toJson)).normalize = .ok rules := by
  rw [Json.normalize, normalizeItems_eq, List.map_map]
  refine (Outcome.mapM_eq_ok_iff ofJson _ rules).2 ?_
  rw [List.map_map]
  refine List.map_congr_left fun r hr => ofJson_toJson ?_
  exact (decoded_iff_tidy r).1 (decoded_of_listOfJson hv h r hr)

namespace Positional

/-- A rule whose triggers are lists, with null for its schedule and a member that is no field. -/
def value : Json := .arr [.obj [
  ("comment", .null),
  ("eventRule", .arr [.obj [("source", .strings ["aws.s3"])]]),
  ("gatewayRule", .arr [.str "POST", .bool true]),
  ("memorySize", .ofNat 256 (by decide)),
  ("name", .str "audit"),
  ("parameters", .obj [("Bucket", .obj [
    ("Default", .null), ("Description", .str "what to watch"), ("Type", .str "String")])]),
  ("scheduledRule", .null),
  ("statements", .arr [.obj [
    ("Action", .str "s3:Get"), ("Effect", .str "Allow"), ("Resource", .str "*"), ("Sid", .null)]])]]

def rule : Rule :=
  { empty with
    name := some "audit"
    parameters := .ofList [("Bucket",
      ⟨some "String", some "what to watch", .ofList [("Default", .null)]⟩)]
    statements := some [
      { Statement.allow (.str "s3:Get") (.str "*") with extra := .ofList [("Sid", .null)] }]
    event := some ⟨some (.obj [("source", .strings ["aws.s3"])])⟩
    gateway := some ⟨some "POST", true, none, none⟩
    memorySize := some (.ofNat 256 (by decide)) }

theorem normal_value : value.Normal := by decide

theorem listOfJson_value : listOfJson value = .ok [rule] := rfl

end Positional

theorem listOfJson_roundTrip_sample :
    Positional.value.Normal ∧ listOfJson Positional.value = .ok [Positional.rule] ∧
      listOfJson (Json.arr ([Positional.rule].map toJson)).normalize = .ok [Positional.rule] :=
  ⟨Positional.normal_value, Positional.listOfJson_value,
    listOfJson_roundTrip Positional.normal_value Positional.listOfJson_value⟩

end Rule

end RuleStack
