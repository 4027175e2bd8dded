import RuleStack.Handler
import RuleStack.Proofs.Json.Settled
import RuleStack.Proofs.Rule.RoundTrip
/-!
A tidy template is read back from the value that it is written as (`Template.ofJson_toJson`), and
from its printed text with settled numbers (`Template.ofJson_printed`).
-/
set_option autoImplicit false

namespace RuleStack

open Json

namespace Resource

structure Tidy (r : Resource) : Prop where
  dependsOn : ∀ v ∈ r.dependsOn, v.Solid
  properties : ∀ e ∈ r.properties.entries, e.2.Normal
  metadata : ∀ v ∈ r.metadata, v.Solid
  extra : record.Beside r.extra

theorem keepsIn_extra : record.KeepsIn extra fun m r => { r with extra := m } := {}

theorem read_toJson {r : Resource} (h : r.Tidy) : record.read r.toJson.normalize = .ok r := by
  refine Record.Written.read_normalize keepsIn_extra.orderless ?_
  simp only [List.append_assoc]
  exact .member rfl (.any h.dependsOn rfl (.map (readMap_of_normal h.properties) rfl
    (.any h.metadata rfl (keepsIn_extra.written h.extra rfl))))

theorem tidy_of_decoded {r : Resource} (h : Decoded record.read r) : r.Tidy := by
  refine keepsIn_extra.decoded_induction (P := Tidy)
    ⟨nofun, by simp [record, KeyMap.empty], nofun, record.beside_empty⟩ ?_
    (fun _ _ _ hkey hv hs => { hs with extra := hs.extra.insert hkey hv }) h
  refine ⟨.mandatory fun _ _ _ _ _ hs => { hs with },
    .optional fun _ _ _ hv hx hs => { hs with dependsOn := solid_of_readOption hv hx },
    .optional fun _ _ _ hv hx hs => ?properties,
    .optional fun _ _ _ hv hx hs => { hs with metadata := solid_of_readOption hv hx }⟩
  have hproperties e he := (decoded_ok_iff _).1 (decoded_of_readMap hv hx e he)
  exact { hs with properties := hproperties }

end Resource

namespace Output

structure Tidy (o : Output) : Prop where
  value : o.value.Normal
  extra : record.Beside o.extra

theorem keepsIn_extra : record.KeepsIn extra fun m o => { o with extra := m } where
  fields := trivial
  kept := fun _ _ w =>
    .of_set (g := fun v (o : Output) => { o with value := v }) (by intros; rfl) (.ok w)

theorem read_toJson {o : Output} (h : o.Tidy) : record.read o.toJson.normalize = .ok o := by
  have hvalue : Except.map (fun v => { record.start with value := v })
      (Except.ok o.value.normalize : Except Mismatch Json) = .ok ⟨o.value, .empty⟩ := by
    rw [normalize_eq_self h.value]
    rfl
  exact Record.Written.read_normalize keepsIn_extra.orderless
    (.member hvalue (keepsIn_extra.written h.extra rfl))

theorem tidy_of_decoded {o : Output} (h : Decoded record.read o) : o.Tidy := by
  refine keepsIn_extra.decoded_induction (P := Tidy) ⟨trivial, record.beside_empty⟩
    (.mandatory fun _ _ _ hv hx hs => ?_)
    (fun _ _ _ hkey hv hs => { hs with extra := hs.extra.insert hkey hv }) h
  cases hx
  exact { hs with value := hv }

end Output

namespace PolicyDocument

def Tidy (d : PolicyDocument) : Prop := ∀ s ∈ d.statements, s.Tidy

theorem orderless_record : record.Orderless :=
  Record.Separate.orderless {} nofun

theorem read_toJson {d : PolicyDocument} (h : d.Tidy) : record.read d.toJson.normalize = .ok d := by
  refine Record.Written.read_normalize orderless_record (.text rfl (.member ?_ (.nil record d)))
  refine (Outcome.map_eq_ok_iff _ _ _).2 ⟨d.statements, ?_, rfl⟩
  exact readList_normalize fun s hs => Statement.read_toJson (h s hs)

theorem tidy_of_decoded {d : PolicyDocument} (h : Decoded record.read d) : d.Tidy := by
  refine Record.decoded_induction (r := record) (P := Tidy) (by simp [Tidy, record])
    ⟨.optional fun _ _ _ _ _ hs => hs, .mandatory fun _ _ _ hv hx _ => ?_⟩ nofun h
  exact fun s hs => Statement.tidy_of_decoded (decoded_of_readList hv hx s hs)

end PolicyDocument

namespace Policy

def Tidy (p : Policy) : Prop := p.document.Tidy

theorem orderless_record : record.Orderless :=
  Record.Separate.orderless {} nofun

theorem read_toJson {p : Policy} (h : p.Tidy) : record.read p.toJson.normalize = .ok p := by
  refine Record.Written.read_normalize orderless_record (.member rfl (.member ?_ (.nil record p)))
  exact (Outcome.map_eq_ok_iff _ _ _).2 ⟨p.document, PolicyDocument.read_toJson h, rfl⟩

theorem tidy_of_decoded {p : Policy} (h : Decoded record.read p) : p.Tidy := by
  refine Record.decoded_induction (r := record) (P := Tidy)
    (by simp [Tidy, PolicyDocument.Tidy, record])
    ⟨.mandatory fun _ _ _ _ _ hs => hs, .mandatory fun _ _ _ hv hx _ => ?_⟩ nofun h
  exact PolicyDocument.tidy_of_decoded ⟨_, hv, hx⟩

end Policy

namespace Template

structure Tidy (t : Template) : Prop where
  parameters : ∀ e ∈ t.parameters.entries, e.2.Tidy
  resources : ∀ e ∈ t.resources.entries, e.2.Tidy
  outputs : ∀ e ∈ t.outputs.entries, e.2.Tidy
  extra : record.Beside t.extra

theorem keepsIn_extra : record.KeepsIn extra fun m t => { t with extra := m } := {}

theorem ofJson_toJson {t : Template} (h : t.Tidy) : ofJson t.toJson.normalize = .ok t := by
  refine Record.Written.read_normalize keepsIn_extra.orderless ?_
  simp only [List.append_assoc]
  refine .text rfl (.text rfl ?_)
  have hparameters := readMap_normalize fun e he => Parameter.read_toJson (h.parameters e he)
  have hresources := readMap_normalize fun e he => Resource.read_toJson (h.resources e he)
  have houtputs := readMap_normalize fun e he => Output.read_toJson (h.outputs e he)
  refine .member ((Outcome.map_eq_ok_iff _ _ _).2 ⟨_, hparameters, rfl⟩) ?_
  refine .member ((Outcome.map_eq_ok_iff _ _ _).2 ⟨_, hresources, rfl⟩) ?_
  refine .member ((Outcome.map_eq_ok_iff _ _ _).2 ⟨_, houtputs, rfl⟩) ?_
  exact keepsIn_extra.written h.extra rfl

theorem tidy_empty : empty.Tidy := by
  refine ⟨?_, ?_, ?_, record.beside_empty⟩ <;> simp [empty, KeyMap.empty]

theorem tidy_of_ofJson {v : Json} (hv : v.Normal) {t : Template} (h : ofJson v = .ok t) :
    t.Tidy := by
  refine keepsIn_extra.decoded_induction (P := Tidy) tidy_empty ?_
    (fun _ _ _ hkey hv hs => { hs with extra := hs.extra.insert hkey hv }) ⟨v, hv, h⟩
  refine ⟨.optional fun _ _ _ _ _ hs => { hs with }, .optional fun _ _ _ _ _ hs => { hs with },
    .optional fun _ _ _ hv hx hs => ?parameters, .optional fun _ _ _ hv hx hs => ?resources,
    .optional fun _ _ _ hv hx hs => ?outputs⟩
  case parameters =>
    have hparameters e he := Parameter.tidy_of_decoded (decoded_of_readMap hv hx e he)
    exact { hs with parameters := hparameters }
  case resources =>
    have hresources e he := Resource.tidy_of_decoded (decoded_of_readMap hv hx e he)
    exact { hs with resources := hresources }
  case outputs =>
    have houtputs e he := Output.tidy_of_decoded (decoded_of_readMap hv hx e he)
    exact { hs with outputs := houtputs }

end Template

namespace Json

theorem map_optionalMember (change : Json → Json) (name : String) (value : Option Json) :
    (optionalMember name value).map (fun e => (e.1, change e.2)) =
      optionalMember name (value.map change) := by
  cases value <;> rfl

theorem map_mapNumbers_str (f : Number → Number) (x : Option String) :
    (x.map str).map (mapNumbers f) = x.map str := by
  cases x <;> rfl

end Json

theorem Record.Beside.mapNumbers {σ : Type} {r : Record σ} {m : KeyMap Json} (h : r.Beside m)
    (f : Number → Number) : r.Beside (m.mapValues (Json.mapNumbers f)) := by
  refine List.forall_mem_map.2 fun e he => ?_
  exact ⟨(h e he).1, normal_mapNumbers f (h e he).2⟩

def Parameter.mapNumbers (f : Number → Number) (p : Parameter) : Parameter :=
  { p with extra := p.extra.mapValues (Json.mapNumbers f) }

def Resource.mapNumbers (f : Number → Number) (r : Resource) : Resource :=
  { r with
    dependsOn := r.dependsOn.map (Json.mapNumbers f)
    properties := r.properties.mapValues (Json.mapNumbers f)
    metadata := r.metadata.map (Json.mapNumbers f)
    extra := r.extra.mapValues (Json.mapNumbers f) }

def Output.mapNumbers (f : Number → Number) (o : Output) : Output :=
  ⟨o.value.mapNumbers f, o.extra.mapValues (Json.mapNumbers f)⟩

def Template.mapNumbers (f : Number → Number) (t : Template) : Template :=
  { t with
    parameters := t.parameters.mapValues (Parameter.mapNumbers f)
    resources := t.resources.mapValues (Resource.mapNumbers f)
    outputs := t.outputs.mapValues (Output.mapNumbers f)
    extra := t.extra.mapValues (Json.mapNumbers f) }

section Twice

variable (f g : Number → Number)

theorem Parameter.mapNumbers_mapNumbers (p : Parameter) :
    (p.mapNumbers f).mapNumbers g = p.mapNumbers (g ∘ f) := by
  simp only [mapNumbers, KeyMap.mapValues_mapValues, Function.comp_def, Json.mapNumbers_mapNumbers]

theorem Resource.mapNumbers_mapNumbers (r : Resource) :
    (r.mapNumbers f).mapNumbers g = r.mapNumbers (g ∘ f) := by
  simp only [mapNumbers, KeyMap.mapValues_mapValues, Option.map_map, Function.comp_def,
    Json.mapNumbers_mapNumbers]

theorem Output.mapNumbers_mapNumbers (o : Output) :
    (o.mapNumbers f).mapNumbers g = o.mapNumbers (g ∘ f) := by
  simp only [mapNumbers, KeyMap.mapValues_mapValues, Function.comp_def, Json.mapNumbers_mapNumbers]

theorem Template.mapNumbers_mapNumbers (t : Template) :
    (t.mapNumbers f).mapNumbers g = t.mapNumbers (g ∘ f) := by
  simp only [mapNumbers, KeyMap.mapValues_mapValues, Function.comp_def, Json.mapNumbers_mapNumbers,
    Parameter.mapNumbers_mapNumbers, Resource.mapNumbers_mapNumbers, Output.mapNumbers_mapNumbers]

end Twice

section Parts

variable (f : Number → Number)

theorem Parameter.toJson_mapNumbers (p : Parameter) :
    (p.mapNumbers f).toJson = p.toJson.mapNumbers f := by
  simp only [toJson, mapNumbers, Json.mapNumbers, mapNumbersMembers_eq, KeyMap.mapValues,
    List.map_append, map_optionalMember, map_mapNumbers_str]

theorem Resource.toJson_mapNumbers (r : Resource) :
    (r.mapNumbers f).toJson = r.toJson.mapNumbers f := by
  have hempty : (r.properties.mapValues (Json.mapNumbers f)).isEmpty = r.properties.isEmpty :=
    List.isEmpty_map
  have hproperties : ofMap (r.properties.mapValues (Json.mapNumbers f)) =
      (ofMap r.properties).mapNumbers f := by
    rw [ofMap, ofMap, Json.mapNumbers, mapNumbersMembers_eq]
    rfl
  simp only [toJson, mapNumbers, hempty, hproperties, Json.mapNumbers, mapNumbersMembers_eq,
    List.map_append, map_optionalMember, List.map_cons, List.map_nil]
  cases r.properties.isEmpty <;> rfl

theorem Output.toJson_mapNumbers (o : Output) :
    (o.mapNumbers f).toJson = o.toJson.mapNumbers f := by
  simp only [toJson, mapNumbers, Json.mapNumbers, mapNumbersMembers_eq, KeyMap.mapValues,
    List.map_cons]

theorem Template.mapNumbers_sectionJson {α : Type} {write : α → Json} {change : α → α}
    (h : ∀ a, write (change a) = (write a).mapNumbers f) (m : KeyMap α) :
    (sectionJson write m.entries).mapNumbers f =
      sectionJson write (m.mapValues change).entries := by
  simp only [sectionJson, Json.mapNumbers, mapNumbersMembers_eq, KeyMap.mapValues, List.map_map,
    Function.comp_def, h]

theorem Template.toJson_mapNumbers (t : Template) :
    (t.mapNumbers f).toJson = t.toJson.mapNumbers f := by
  simp only [toJson, mapNumbers]
  rw [← mapNumbers_sectionJson f (Parameter.toJson_mapNumbers f),
    ← mapNumbers_sectionJson f (Resource.toJson_mapNumbers f),
    ← mapNumbers_sectionJson f (Output.toJson_mapNumbers f)]
  simp only [Json.mapNumbers, mapNumbersMembers_eq, KeyMap.mapValues, List.map_append,
    map_optionalMember, map_mapNumbers_str, List.map_cons, List.map_nil]

theorem Resource.handler?_mapNumbers (r : Resource) (key : String) :
    (r.mapNumbers f).handler? key = r.handler? key := by
  have hsource : (r.mapNumbers f).sourcePath? = r.sourcePath? := by
    rw [sourcePath?, sourcePath?, mapNumbers]
    cases r.metadata with
    | none => rfl
    | some v =>
      rw [Option.map_some, Option.bind_some, Option.bind_some, member?_mapNumbers]
      cases v.member? "sourcePath" with
      | none => rfl
      | some w => exact asText?_mapNumbers f w
  have hentry : (r.mapNumbers f).entryPoint? = r.entryPoint? := by
    have hget : (r.mapNumbers f).properties.get? "Handler" =
        (r.properties.get? "Handler").map (Json.mapNumbers f) :=
      KeyMap.lookup_map (Json.mapNumbers f) r.properties.entries "Handler"
    rw [entryPoint?, entryPoint?, hget]
    cases r.properties.get? "Handler" with
    | none => rfl
    | some w => exact asText?_mapNumbers f w
  rw [handler?, handler?, hsource, hentry]
  rfl

end Parts

namespace Template

/-- The template as it comes back from a printed text. -/
def settle (t : Template) : Template := t.mapNumbers Number.settle

theorem settle_settle (t : Template) : t.settle.settle = t.settle := by
  rw [settle, settle, mapNumbers_mapNumbers]
  exact congrArg t.mapNumbers (funext Number.settle_settle)

theorem toJson_settle (t : Template) : t.settle.toJson = t.toJson.settle :=
  toJson_mapNumbers Number.settle t

theorem render_settle (t : Template) : t.settle.toJson.render = t.toJson.render := by
  rw [toJson_settle, Json.render_settle]

section Tidy

variable {t : Template} (h : t.Tidy)
include h

theorem tidy_mapNumbers (f : Number → Number) : (t.mapNumbers f).Tidy := by
  refine ⟨?parameters, ?resources, ?outputs, h.extra.mapNumbers f⟩
  case parameters => exact List.forall_mem_map.2 fun e he => (h.parameters e he).mapNumbers f
  case resources =>
    refine List.forall_mem_map.2 fun e he => ?_
    have hsolid {x : Option Json} (hx : ∀ v ∈ x, v.Solid) :
        ∀ v ∈ x.map (Json.mapNumbers f), v.Solid := by
      intro v hv
      obtain ⟨w, hw, rfl⟩ := Option.map_eq_some_iff.1 hv
      exact solid_mapNumbers f (hx w hw)
    have hr := h.resources e he
    exact ⟨hsolid hr.dependsOn,
      List.forall_mem_map.2 fun e he => normal_mapNumbers f (hr.properties e he),
      hsolid hr.metadata, hr.extra.mapNumbers f⟩
  case outputs =>
    refine List.forall_mem_map.2 fun e he => ?_
    exact ⟨normal_mapNumbers f (h.outputs e he).value, (h.outputs e he).extra.mapNumbers f⟩

theorem ofJson_printed : ofJson t.toJson.printed = .ok t.settle := by
  have hread := ofJson_toJson (tidy_mapNumbers h Number.settle)
  rwa [toJson_mapNumbers, normalize_mapNumbers] at hread

/-- The same template comes back just if no double in it reads as an integer. -/
theorem settle_eq_self_iff : t.settle = t ↔ ∀ n ∈ t.toJson.numbers, ¬ n.ReadsAsInteger := by
  rw [← Json.settle_eq_self_iff, ← toJson_settle]
  refine ⟨congrArg toJson, fun hjson => ?_⟩
  have hread := ofJson_toJson (tidy_mapNumbers h Number.settle)
  rw [← settle, hjson, ofJson_toJson h] at hread
  exact (Except.ok.inj hread).symm

end Tidy

theorem handlers_mapNumbers (f : Number → Number) (t : Template) :
    (t.mapNumbers f).handlers = t.handlers := by
  simp only [handlers, mapNumbers, KeyMap.mapValues, List.filterMap_map, Function.comp_def,
    Resource.handler?_mapNumbers]

end Template

end RuleStack
