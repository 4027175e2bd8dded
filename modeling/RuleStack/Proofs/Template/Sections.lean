import RuleStack.Fragment.Kind
import RuleStack.Proofs.Json.Printed
import RuleStack.Proofs.Json.Record
set_option autoImplicit false

namespace RuleStack

open Json

namespace Template

/-- What the template keeps beside its sections has none of their names. -/
def Apart (t : Template) : Prop := ∀ key ∈ t.extra.keys, key ∉ record.fields.map (·.name)

theorem apart_of_ofJson {v : Json} {t : Template} (h : ofJson v = .ok t) : t.Apart := by
  have hfield : ∀ f ∈ record.fields, ∀ v s s', f.read v s = .ok s' → s'.extra = s.extra := by
    intro f hf v s s' hread
    simp only [record, List.mem_cons, List.not_mem_nil, or_false] at hf
    rcases hf with rfl | rfl | rfl | rfl | rfl <;>
    · obtain ⟨a, -, rfl⟩ := (Outcome.map_eq_ok_iff _ _ _).1 hread
      rfl
  have hstart : Apart record.start := fun _ hkey => (List.not_mem_nil hkey).elim
  cases v with
  | obj members =>
    refine Record.readMembers_induction (P := Apart) hstart
      (fun f hf m _ s s' hs hread => ?_) (fun keep hkeep m _ s hkey hs => ?_) h
    · rw [Apart, hfield f hf m.2 s s' hread]
      exact hs
    · cases hkeep
      intro other hother
      rcases (KeyMap.mem_keys_insert _ _ _ _).1 hother with rfl | hother
      · exact hkey
      · exact hs other hother
  | _ => cases h

theorem member?_sectionJson {α : Type} (write : α → Json) (m : KeyMap α) (key : String) :
    (sectionJson write m.entries).printed.member? key =
      (m.get? key).map fun a => (write a).printed := by
  have hentries := KeyMap.entries_ofList_map write m.entries
  rw [KeyMap.ofList_entries] at hentries
  rw [sectionJson, member?_printed, KeyMap.get?, hentries, KeyMap.lookup_map, Option.map_map]
  rfl

def sections (t : Template) : List (String × Json) := [
  ("Parameters", sectionJson Parameter.toJson t.parameters.entries),
  ("Resources", sectionJson Resource.toJson t.resources.entries),
  ("Outputs", sectionJson Output.toJson t.outputs.entries)]

section At

variable {t : Template} (h : t.Apart)
include h

theorem member?_toJson {name : String} {v : Json} (hv : t.sections.lookup name = some v) :
    t.toJson.printed.member? name = some v.printed := by
  have hnames : t.sections.map (·.1) = ["Parameters", "Resources", "Outputs"] := rfl
  have hnodup : (t.sections.map (·.1)).Nodup := by
    rw [hnames]
    decide
  have hextra : (KeyMap.ofList t.extra.entries).get? name = none := by
    have hname : name ∈ t.sections.map (·.1) := List.mem_map_of_mem (KeyMap.mem_of_lookup hv)
    have hfields : ∀ name ∈ t.sections.map (·.1), name ∈ record.fields.map (·.name) := by
      rw [hnames]
      decide
    rw [KeyMap.ofList_entries, ← Option.not_isSome_iff_eq_none, ← KeyMap.contains,
      KeyMap.contains_iff]
    exact fun hkey => h name hkey (hfields name hname)
  rw [toJson, member?_printed, KeyMap.get?_ofList_append, hextra, Option.none_or,
    KeyMap.get?_ofList_append]
  rw [← sections, KeyMap.get?_ofList_of_lookup hnodup hv, Option.some_or, Option.map_some]

theorem at?_section {α : Type} {name : String} (write : α → Json) {m : KeyMap α}
    (hsection : t.sections.lookup name = some (sectionJson write m.entries)) (key : String) :
    t.toJson.printed.at? [name, key] = (m.get? key).map fun a => (write a).printed := by
  rw [at?, member?_toJson h hsection, Option.bind_some, at?, member?_sectionJson]
  cases m.get? key <;> rfl

end At

end Template

theorem Resource.at?_properties {r : Resource} (hextra : r.extra = .empty) {key : String} {v : Json}
    (h : r.properties.get? key = some v) :
    r.toJson.printed.at? ["Properties", key] = some v.printed := by
  have hproperties : r.properties.isEmpty = false := by
    have hne : r.properties.entries ≠ [] := List.ne_nil_of_mem (KeyMap.mem_of_get? h)
    rw [KeyMap.isEmpty, List.isEmpty_eq_false_iff]
    exact hne
  have hmember : r.toJson.printed.member? "Properties" = some (ofMap r.properties).printed := by
    have hnone : (KeyMap.empty : KeyMap Json).entries = [] := rfl
    rw [toJson, hproperties, hextra, hnone, member?_printed]
    cases r.dependsOn <;> cases r.metadata <;>
      simp [KeyMap.get?_ofList_cons, KeyMap.get?_ofList_nil, optionalMember]
  have hentry : (ofMap r.properties).printed.member? key = some v.printed := by
    rw [ofMap, member?_printed, KeyMap.ofList_entries, h, Option.map_some]
  rw [at?, hmember, Option.bind_some, at?, hentry]
  rfl

theorem get?_policies_executionRole (policies : List Policy) :
    (executionRole policies).properties.get? "Policies" =
      some (.arr ((basePolicy :: policies).map (·.toJson.normalize))) := by
  simp [executionRole, Resource.make, KeyMap.get?_ofList_cons, KeyMap.get?_ofList_nil]

theorem at?_executionRole (policies : List Policy) :
    (executionRole policies).toJson.printed.at? ["Properties", "Policies"] =
      some (.arr ((basePolicy :: policies).map (·.toJson.printed))) := by
  have hprinted : (basePolicy :: policies).map (·.toJson.normalize.printed) =
      (basePolicy :: policies).map (·.toJson.printed) :=
    List.map_congr_left fun p _ => printed_normalize p.toJson
  rw [Resource.at?_properties rfl (get?_policies_executionRole policies), printed_arr,
    List.map_map, ← hprinted]
  rfl

end RuleStack
