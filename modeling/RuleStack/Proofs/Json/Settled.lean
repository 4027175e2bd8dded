import RuleStack.Proofs.Json.Canonical
import RuleStack.Proofs.Json.Decoded
/-!
Settling a number keeps its canonical text, so a value with settled numbers prints the same
(`render_settle`), and what was printed once is printed the same ever after (`render_stable`).
-/
set_option autoImplicit false

namespace RuleStack

namespace KeyMap

variable {α β γ : Type}

def mapValues (f : α → β) (m : KeyMap α) : KeyMap β :=
  ⟨m.entries.map fun e => (e.1, f e.2), List.pairwise_map.2 m.ordered⟩

theorem mapValues_mapValues (f : α → β) (g : β → γ) (m : KeyMap α) :
    (m.mapValues f).mapValues g = m.mapValues (g ∘ f) := by
  refine ext ?_
  simp only [mapValues, List.map_map]
  rfl

theorem get?_mapValues (f : α → β) (m : KeyMap α) (key : String) :
    (m.mapValues f).get? key = (m.get? key).map f :=
  lookup_map f m.entries key

@[simp] theorem contains_mapValues (f : α → β) (m : KeyMap α) (key : String) :
    (m.mapValues f).contains key = m.contains key := by
  rw [contains, contains, get?_mapValues, Option.isSome_map]

theorem mapValues_insert (f : α → β) (m : KeyMap α) (key : String) (value : α) :
    (m.insert key value).mapValues f = (m.mapValues f).insert key (f value) := by
  refine ext_get? fun other => ?_
  rw [get?_mapValues, get?_insert, get?_insert, get?_mapValues]
  split <;> rfl

theorem mapValues_insertAll (f : α → β) (m : KeyMap α) (es : List (String × α)) :
    (m.insertAll es).mapValues f = (m.mapValues f).insertAll (es.map fun e => (e.1, f e.2)) := by
  induction es generalizing m with
  | nil => rfl
  | cons e rest ih => rw [insertAll, ih, mapValues_insert, List.map_cons, insertAll]

end KeyMap

namespace Number

theorem settle_eq_self {n : Number} (h : ¬ n.ReadsAsInteger) : n.settle = n := by
  cases n with
  | integer => rfl
  | float x =>
    cases hwhole : x.whole? with
    | none => simp [settle, hwhole]
    | some value =>
      have hword : ¬ InWord value := fun hword => h ⟨value, hwhole, hword⟩
      simp [settle, hwhole, ofInt?_eq_none hword]

theorem settle_settle (n : Number) : n.settle.settle = n.settle := by
  by_cases h : n.ReadsAsInteger
  · cases n with
    | integer => rfl
    | float x =>
      obtain ⟨value, hwhole, hword⟩ := h
      simp [settle, hwhole, ofInt?_eq_some hword]
  · rw [settle_eq_self h, settle_eq_self h]

theorem not_readsAsInteger_settle (n : Number) : ¬ n.settle.ReadsAsInteger := by
  intro h
  have hagain := n.settle_settle
  cases hn : n.settle with
  | integer value hword =>
    rw [hn] at h
    exact h
  | float x =>
    rw [hn] at h hagain
    obtain ⟨value, hwhole, hword⟩ := h
    simp [settle, hwhole, ofInt?_eq_some hword] at hagain

end Number

theorem natText_mul_pow {n : Nat} (hn : n ≠ 0) (k : Nat) :
    natText (n * 10 ^ k) = natText n ++ List.replicate k '0' := by
  induction k with
  | zero => simp
  | succ k ih =>
    have hpos : 0 < n * 10 ^ k := Nat.mul_pos (Nat.pos_of_ne_zero hn) (Nat.pow_pos (by decide))
    have hdigit : natText (n * 10 ^ k) ++ natText 0 = natText (10 * (n * 10 ^ k) + 0) :=
      Nat.toDigits_append_toDigits (by decide) hpos (by decide)
    rw [ih] at hdigit
    rw [Nat.pow_succ, ← Nat.mul_assoc, Nat.mul_comm _ 10, List.replicate_succ',
      ← List.append_assoc]
    exact hdigit.symm

namespace Layout

open Json

theorem intText_signed (negative : Bool) {n : Nat} (hn : 0 < n) :
    intText (signed negative n) = signText negative ++ natText n := by
  have habs : (signed negative n).natAbs = n := by cases negative <;> simp [signed]
  have hsign : decide (signed negative n < 0) = negative := by
    cases negative <;> simp [signed, hn]
  rw [intText_eq, habs, hsign]

/-- A double that is a whole number of one word is written like that number. -/
theorem canonical_floatText {x : Binary64} {value : Int} (hwhole : x.whole? = some value)
    (hword : InWord value) : canonical.floatText x = intText value := by
  cases hx : x.isZero with
  | true =>
    have hvalue : 0 = value := by simpa [Binary64.whole?, hx] using hwhole
    subst hvalue
    rw [floatText, if_pos hx]
    simp [canonical, fractionText, intText, natText]
  | false =>
    by_cases hexp : 0 ≤ x.shortest.trim.exponent
    · have hpos : canonical.Positional x.shortest.trim := by
        refine Decidable.byContradiction fun hpos => ?_
        have hsettle := settle_of_not_positional hx hpos
        simp [Number.settle, hwhole, Number.ofInt?_eq_some hword] at hsettle
      have hne := Binary64.digits_ne_zero hx
      have htext : canonical.decimalText x.shortest.trim =
          natText (x.shortest.trim.digits * 10 ^ x.shortest.trim.exponent.toNat) := by
        unfold decimalText
        refine ((if_pos hpos).trans (if_pos hexp)).trans ?_
        rw [natText_mul_pow hne, fractionText, canonical]
        exact List.append_nil _
      have hvalue : signed x.negative
          (x.shortest.trim.digits * 10 ^ x.shortest.trim.exponent.toNat) = value := by
        simpa [Binary64.whole?, hx, hexp] using hwhole
      have hlarge : 0 < x.shortest.trim.digits * 10 ^ x.shortest.trim.exponent.toNat :=
        Nat.mul_pos (Nat.pos_of_ne_zero hne) (Nat.pow_pos (by decide))
      rw [floatText, hx, htext, ← hvalue, intText_signed _ hlarge]
      rfl
    · simp [Binary64.whole?, hx, hexp] at hwhole

/-- The canonical text of a number is that of the number it reads back as. -/
theorem canonical_numberText_settle (n : Number) :
    canonical.numberText n.settle = canonical.numberText n := by
  by_cases hreads : n.ReadsAsInteger
  · cases n with
    | integer => rfl
    | float x =>
      obtain ⟨value, hwhole, hword⟩ := hreads
      have hsettle : Number.settle (.float x) = .integer value hword := by
        simp [Number.settle, hwhole, Number.ofInt?_eq_some hword]
      rw [hsettle, numberText, numberText, canonical_floatText hwhole hword]
  · rw [Number.settle_eq_self hreads]

end Layout

namespace Json

theorem mapNumbers_mapNumbers (f g : Number → Number) (v : Json) :
    (v.mapNumbers f).mapNumbers g = v.mapNumbers (g ∘ f) := by
  induction v using induct with
  | null => rfl
  | bool => rfl
  | num => rfl
  | str => rfl
  | arr items ih =>
    simp only [mapNumbers, mapNumbersItems_eq, List.map_map]
    exact congrArg arr (List.map_congr_left ih)
  | obj members ih =>
    simp only [mapNumbers, mapNumbersMembers_eq, List.map_map]
    exact congrArg obj (List.map_congr_left fun e he => congrArg (Prod.mk e.1) (ih e he))

theorem numbers_mapNumbers (f : Number → Number) (v : Json) :
    (v.mapNumbers f).numbers = v.numbers.map f := by
  induction v using induct with
  | null => rfl
  | bool => rfl
  | num => rfl
  | str => rfl
  | arr items ih =>
    rw [mapNumbers, mapNumbersItems_eq, numbers, numbers, numbersItems_eq, numbersItems_eq,
      List.flatMap_map, List.map_flatMap, List.flatMap_def, List.flatMap_def]
    exact congrArg List.flatten (List.map_congr_left ih)
  | obj members ih =>
    rw [mapNumbers, mapNumbersMembers_eq, numbers, numbers, numbersMembers_eq, numbersMembers_eq,
      List.flatMap_map, List.map_flatMap, List.flatMap_def, List.flatMap_def]
    exact congrArg List.flatten (List.map_congr_left ih)

/-- A value is the same with settled numbers just if no double in it reads as an integer. -/
theorem settle_eq_self_iff (v : Json) : v.settle = v ↔ ∀ n ∈ v.numbers, ¬ n.ReadsAsInteger := by
  refine ⟨fun h => ?_, fun h => mapNumbers_eq_self fun n hn => Number.settle_eq_self (h n hn)⟩
  rw [← h, settle, numbers_mapNumbers, List.forall_mem_map]
  exact fun n _ => n.not_readsAsInteger_settle

theorem canonicalChars_settle (v : Json) : v.settle.canonicalChars = v.canonicalChars := by
  induction v using induct with
  | null => rfl
  | bool => rfl
  | num n => exact Layout.canonical_numberText_settle n
  | str => rfl
  | arr items ih =>
    rw [settle, mapNumbers, canonicalChars, canonicalChars, canonicalItems_eq, canonicalItems_eq,
      mapNumbersItems_eq, List.map_map]
    exact congrArg (fun texts => '[' :: (joined [] texts ++ [']'])) (List.map_congr_left ih)
  | obj members ih =>
    rw [settle, mapNumbers, canonicalChars, canonicalChars, canonicalMembers_eq,
      canonicalMembers_eq, mapNumbersMembers_eq, List.map_map]
    refine congrArg (fun texts => '\x7b' :: (joinMembers (KeyMap.ofList texts).entries ++ ['\x7d']))
      (List.map_congr_left fun e he => congrArg (Prod.mk (quotedKey e.1)) (ih e he))

theorem canonical_settle (v : Json) : v.settle.canonical = v.canonical :=
  congrArg String.ofList (canonicalChars_settle v)

theorem render_settle (v : Json) : v.settle.render = v.render := by
  rw [render, canonical_settle, render]

section Change

variable (f : Number → Number)

theorem normal_mapNumbers {v : Json} (h : v.Normal) : (v.mapNumbers f).Normal := by
  rw [← normalize_eq_self h, ← normalize_mapNumbers]
  exact normal_normalize _

theorem solid_mapNumbers {v : Json} (h : v.Solid) : (v.mapNumbers f).Solid := by
  refine ⟨fun hnull => h.1 ?_, normal_mapNumbers f h.2⟩
  cases v <;> first | rfl | cases hnull

theorem asText?_mapNumbers (v : Json) : (v.mapNumbers f).asText? = v.asText? := by
  cases v <;> rfl

theorem member?_mapNumbers (key : String) (v : Json) :
    (v.mapNumbers f).member? key = (v.member? key).map (mapNumbers f) := by
  cases v with
  | obj members =>
    rw [mapNumbers, mapNumbersMembers_eq]
    exact KeyMap.lookup_map (mapNumbers f) members key
  | _ => rfl

end Change

end Json

namespace Json

/-- Members stand in key order, and every number reads back as it is. -/
structure Steady (v : Json) : Prop where
  normal : v.Normal
  settled : ∀ n ∈ v.numbers, ¬ n.ReadsAsInteger

theorem steady_printed (v : Json) : v.printed.Steady where
  normal := normal_mapNumbers _ (normal_normalize v)
  settled := by
    rw [printed, settle, numbers_mapNumbers, List.forall_mem_map]
    exact fun n _ => n.not_readsAsInteger_settle

theorem printed_of_steady {v : Json} (h : v.Steady) : v.printed = v := by
  rw [printed, normalize_eq_self h.normal]
  exact (settle_eq_self_iff v).2 h.settled

theorem render_of_steady {v : Json} (h : v.Steady) (hdepth : v.depth ≤ maxDepth) :
    v.render = .ok (v.pretty ++ "\n") := by
  have hprinted := printed_of_steady h
  obtain ⟨text, htext⟩ := (exists_render_iff v).2 (hprinted.symm ▸ hdepth)
  obtain ⟨-, rfl⟩ := (render_eq_ok_iff v text).1 htext
  rw [htext]
  exact congrArg (fun w : Json => Except.ok (w.pretty ++ "\n")) hprinted

/-- A printed document is read back as a steady value, and that one prints as the same text. -/
theorem render_stable {v : Json} {text : String} (h : v.render = .ok text) :
    ∃ w, parse text = .ok w ∧ w.Steady ∧ text = w.pretty ++ "\n" ∧ w.render = .ok text := by
  have hdepth := (exists_render_iff v).1 ⟨text, h⟩
  obtain ⟨-, htext⟩ := (render_eq_ok_iff v text).1 h
  refine ⟨v.printed, parse_of_render h, steady_printed v, htext, ?_⟩
  rw [htext]
  exact render_of_steady (steady_printed v) hdepth

namespace Unsteady

def double (code : Nat) (h : code < Binary64.infinity) : Json := .num (.float ⟨false, code, h⟩)

def value : Json := .obj [
  ("b", .null),
  ("a", .arr [
    .num (.float (.zero true)),
    double 0x43E0000000000000 (by decide),
    double 0x43F0000000000000 (by decide),
    double 0x444B1AE4D6E2EF50 (by decide),
    .num (.integer 18446744073709551615 (by decide))]),
  ("a!", .obj []),
  ("b", .str "é\n")]

def text : String :=
  "\x7b\n  \"a\": [\n    0,\n    9223372036854776000,\n    1.8446744073709552e+19,\n" ++
    "    1e+21,\n    18446744073709551615\n  ],\n  \"a!\": \x7b\x7d,\n  \"b\": \"é\\n\"\n\x7d\n"

theorem render_value : value.render = .ok text :=
  (render_eq_ok_iff value text).2 ⟨by decide, by decide +kernel⟩

end Unsteady

theorem render_stable_sample :
    Unsteady.value.render = .ok Unsteady.text ∧
      ∃ w, parse Unsteady.text = .ok w ∧ w.render = .ok Unsteady.text := by
  obtain ⟨w, hread, -, -, hagain⟩ := render_stable Unsteady.render_value
  exact ⟨Unsteady.render_value, w, hread, hagain⟩

end Json
end RuleStack
