import RuleStack.Proofs.Bundle.Build
import RuleStack.Proofs.KeyMap
set_option autoImplicit false

namespace RuleStack

namespace Number

theorem toNat?_eq_some_iff (n : Number) (value : Nat) :
    n.toNat? = some value ↔ ∃ h, n = .integer value h := by
  cases n with
  | float x => simp [toNat?]
  | integer i h =>
    simp only [toNat?, Option.ite_none_right_eq_some, Option.some.injEq, integer.injEq]
    constructor
    · rintro ⟨hsign, rfl⟩
      have hvalue : (i.toNat : Int) = i := Int.toNat_of_nonneg hsign
      exact ⟨hvalue.symm ▸ h, hvalue.symm⟩
    · rintro ⟨-, rfl⟩
      exact ⟨Int.natCast_nonneg value, Int.toNat_natCast value⟩

theorem toWord?_eq_some_iff (n : Number) (w : UInt32) :
    n.toWord? = some w ↔ ∃ h, n = .integer w.toNat h := by
  simp only [toWord?, Option.bind_eq_some_iff, toNat?_eq_some_iff]
  constructor
  · rintro ⟨value, hn, hword⟩
    split at hword
    · cases hword
      exact hn
    · cases hword
  · intro hn
    exact ⟨w.toNat, hn, by rw [dif_pos w.toNat_lt, UInt32.ofNatLT_toNat]⟩

end Number

namespace Sizing

/-- What a request is granted: a whole number that is allowed is granted as it is, and `standard`
stands in for everything else. -/
inductive Grants (allowed : Nat → Prop) (standard : Nat) : Option Number → Nat → Prop
  | requested {n : Nat} {h : InWord n} (hn : allowed n) :
      Grants allowed standard (some (.integer n h)) n
  | standard {request : Option Number}
      (hr : ∀ (n : Nat) (h : InWord n), request = some (.integer n h) → ¬ allowed n) :
      Grants allowed standard request standard

section Grants

variable {allowed : Nat → Prop} {standard : Nat} {request : Option Number} {m n : Nat}

theorem allowed_of_grants (h : Grants allowed standard request n) (hstandard : allowed standard) :
    allowed n := by
  cases h with
  | requested hn => exact hn
  | standard => exact hstandard

theorem Grants.unique (h : Grants allowed standard request m)
    (h' : Grants allowed standard request n) : m = n := by
  cases h with
  | requested hm =>
    generalize hasked : some (Number.integer m _) = asked at h'
    cases h' with
    | requested hn =>
      cases hasked
      rfl
    | standard hr => exact absurd hm (hr m _ hasked.symm)
  | standard hr =>
    cases h' with
    | requested hn => exact absurd hn (hr n _ rfl)
    | standard => rfl

theorem Grants.again {size : Option Number → Nat}
    (hgrants : ∀ request, Grants allowed standard request (size request))
    (hstandard : allowed standard) {h : InWord (size request)} {asked : Option Number}
    (hasked : asked ∈ [request, some (.integer (size request) h)]) : size asked = size request := by
  simp only [List.mem_cons, List.not_mem_nil, or_false] at hasked
  rcases hasked with rfl | rfl
  · rfl
  · exact (hgrants _).unique (.requested (allowed_of_grants (hgrants request) hstandard))

end Grants

/-- Narrowing a request to a word loses nothing, where no larger number is allowed. -/
theorem grants_choose {fits : UInt32 → Bool} {allowed : Nat → Prop}
    (hfits : ∀ w, fits w = true ↔ allowed w.toNat) (hword : ∀ n, allowed n → n < UInt32.size)
    (standard : UInt32) (request : Option Number) :
    Grants allowed standard.toNat request (choose fits standard request).toNat := by
  rw [choose]
  cases hchosen : (request.bind Number.toWord?).filter fits with
  | some w =>
    obtain ⟨hrequest, hw⟩ := Option.filter_eq_some_iff.1 hchosen
    obtain ⟨n, rfl, hn⟩ := Option.bind_eq_some_iff.1 hrequest
    obtain ⟨h, rfl⟩ := (Number.toWord?_eq_some_iff n w).1 hn
    exact .requested ((hfits w).1 hw)
  | none =>
    refine .standard fun n h hrequest hn => ?_
    obtain ⟨w, rfl⟩ : ∃ w : UInt32, w.toNat = n :=
      ⟨.ofNatLT n (hword n hn), UInt32.toNat_ofNatLT⟩
    have hnumber : (Number.integer w.toNat h).toWord? = some w :=
      (Number.toWord?_eq_some_iff _ w).2 ⟨h, rfl⟩
    rw [hrequest, Option.bind_some, hnumber, Option.filter_some_pos ((hfits w).2 hn)] at hchosen
    cases hchosen

def MemoryAllowed (megabytes : Nat) : Prop :=
  128 ≤ megabytes ∧ megabytes ≤ 1536 ∧ 64 ∣ megabytes

def TimeoutAllowed (seconds : Nat) : Prop := 1 ≤ seconds ∧ seconds ≤ 300

instance (megabytes : Nat) : Decidable (MemoryAllowed megabytes) :=
  inferInstanceAs (Decidable (_ ∧ _ ∧ _))

instance (seconds : Nat) : Decidable (TimeoutAllowed seconds) :=
  inferInstanceAs (Decidable (_ ∧ _))

theorem memoryFits_iff (w : UInt32) : memoryFits w = true ↔ MemoryAllowed w.toNat := by
  simp only [memoryFits, MemoryAllowed, Bool.and_eq_true, decide_eq_true_eq, beq_iff_eq,
    UInt32.le_iff_toNat_le, ← UInt32.toNat_inj, UInt32.toNat_mod, Nat.dvd_iff_mod_eq_zero,
    and_assoc]
  exact Iff.rfl

theorem timeoutFits_iff (w : UInt32) : timeoutFits w = true ↔ TimeoutAllowed w.toNat := by
  simp only [timeoutFits, TimeoutAllowed, Bool.and_eq_true, decide_eq_true_eq,
    UInt32.le_iff_toNat_le]
  exact Iff.rfl

theorem grants_memory (request : Option Number) :
    Grants MemoryAllowed 128 request (memory request) :=
  grants_choose memoryFits_iff (fun _ h => Nat.lt_of_le_of_lt h.2.1 (by decide)) 128 request

theorem grants_timeout (request : Option Number) :
    Grants TimeoutAllowed 60 request (timeout request) :=
  grants_choose timeoutFits_iff (fun _ h => Nat.lt_of_le_of_lt h.2 (by decide)) 60 request

theorem memoryAllowed_memory (request : Option Number) : MemoryAllowed (memory request) :=
  allowed_of_grants (grants_memory request) (by decide)

theorem timeoutAllowed_timeout (request : Option Number) : TimeoutAllowed (timeout request) :=
  allowed_of_grants (grants_timeout request) (by decide)

end Sizing

namespace Rule

open Sizing

def requesting (r : Rule) (memorySize timeout : Option Number) : Rule :=
  { r with memorySize := memorySize, timeout := timeout }

theorem nodup_functionKeys :
    ["Code", "Role", "Description", "Handler", "MemorySize", "Runtime", "Timeout"].Nodup := by
  decide

theorem memorySize_functionOf (r : Rule) (name runtime : String) :
    (r.functionOf name runtime).properties.get? "MemorySize" =
      some (.ofNat (memory r.memorySize) (memory_le _)) :=
  KeyMap.get?_ofList_of_lookup (by exact nodup_functionKeys) rfl

theorem timeout_functionOf (r : Rule) (name runtime : String) :
    (r.functionOf name runtime).properties.get? "Timeout" =
      some (.ofNat (Sizing.timeout r.timeout) (timeout_le _)) :=
  KeyMap.get?_ofList_of_lookup (by exact nodup_functionKeys) rfl

theorem functionOf_requesting_congr (r : Rule) (name runtime : String)
    {memorySize memorySize' timeout timeout' : Option Number}
    (hmemory : memory memorySize = memory memorySize')
    (htimeout : Sizing.timeout timeout = Sizing.timeout timeout') :
    (r.requesting memorySize timeout).functionOf name runtime =
      (r.requesting memorySize' timeout').functionOf name runtime := by
  simp only [functionOf, requesting, hmemory, htimeout]

theorem function_requesting_eq_ok_iff (r : Rule) (memorySize timeout : Option Number)
    (runtime : String) (f : Resource) :
    (r.requesting memorySize timeout).function runtime = .ok f ↔
      ∃ name, r.usableName? = some name ∧
        (r.requesting memorySize timeout).functionOf name runtime = f := by
  simp only [function, Outcome.map_eq_ok_iff, requireName_eq_ok_iff]
  exact Iff.rfl

/-- Whatever sizes are asked for, a function has a memory size and a timeout inside the allowed
windows, each as its own request is granted. Asking for a size that was granted, in place of the
request that it was granted to, gives the same function. -/
theorem function_sizes (r : Rule) (runtime : String) (h : ∃ f, r.function runtime = .ok f)
    (memorySize timeout : Option Number) :
    ∃ (f : Resource) (memory seconds : Nat) (hmemory : InWord memory) (hseconds : InWord seconds),
      f.properties.get? "MemorySize" = some (.num (.integer memory hmemory)) ∧
      f.properties.get? "Timeout" = some (.num (.integer seconds hseconds)) ∧
      (128 ≤ memory ∧ memory ≤ 1536 ∧ 64 ∣ memory) ∧ (1 ≤ seconds ∧ seconds ≤ 300) ∧
      Grants MemoryAllowed 128 memorySize memory ∧ Grants TimeoutAllowed 60 timeout seconds ∧
      ∀ m ∈ [memorySize, some (.integer memory hmemory)],
        ∀ t ∈ [timeout, some (.integer seconds hseconds)],
          (r.requesting m t).function runtime = .ok f := by
  obtain ⟨f, hf⟩ := h
  obtain ⟨name, hname, -⟩ :=
    (function_requesting_eq_ok_iff r r.memorySize r.timeout runtime f).1 hf
  refine ⟨(r.requesting memorySize timeout).functionOf name runtime, memory memorySize,
    Sizing.timeout timeout, _, _, memorySize_functionOf .., timeout_functionOf ..,
    memoryAllowed_memory memorySize, timeoutAllowed_timeout timeout, grants_memory memorySize,
    grants_timeout timeout, fun m hm t ht => ?_⟩
  have hmemory : memory m = memory memorySize := Grants.again grants_memory (by decide) hm
  have htimeout : Sizing.timeout t = Sizing.timeout timeout :=
    Grants.again grants_timeout (by decide) ht
  exact (function_requesting_eq_ok_iff ..).2
    ⟨name, hname, functionOf_requesting_congr r name runtime hmemory htimeout⟩

/-- The low 32 bits of the memory size would be allowed. -/
theorem function_sizes_sample :
    ∃ f, (Rule.requesting { empty with name := some "login" }
        (some (.ofNat (UInt32.size + 256) (by decide))) (some (.ofNat 300 (by decide)))).function
          "nodejs" = .ok f ∧
      f.properties.get? "MemorySize" = some (.ofNat 128 (by decide)) ∧
      f.properties.get? "Timeout" = some (.ofNat 300 (by decide)) := by
  obtain ⟨f, memory, seconds, _, _, hmemory, hseconds, -, -, hgranted, hgranted', hsame⟩ :=
    function_sizes { empty with name := some "login" } "nodejs"
      (Outcome.exists_of_isOk rfl) (some (.ofNat (UInt32.size + 256) (by decide)))
      (some (.ofNat 300 (by decide)))
  have hnot : ∀ (n : Nat) (h : InWord n),
      some (Number.ofNat (UInt32.size + 256) (by decide)) = some (.integer n h) →
        ¬ MemoryAllowed n := by
    intro n h hn
    have hvalue : UInt32.size + 256 = n := Int.ofNat.inj (Number.integer.inj (Option.some.inj hn))
    rw [← hvalue]
    decide
  obtain rfl : memory = 128 := hgranted.unique (.standard hnot)
  obtain rfl : seconds = 300 := hgranted'.unique (.requested (by decide))
  exact ⟨f, hsame _ (by simp) _ (by simp), hmemory, hseconds⟩

end Rule
end RuleStack
