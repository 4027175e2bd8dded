import RuleStack.Proofs.Text.Blank
import RuleStack.Stack
/-!
A digest can be read back from its hexadecimal text, and cut at any place up to its end
(`hex_faithful`). A deployment key that ends in one is none of the other keys that a stack makes for
itself.
-/
set_option autoImplicit false

namespace RuleStack

namespace Text

def hexDigits : List Char := "0123456789abcdef".toList

theorem getElem?_hexDigits : ∀ n, n < 16 → hexDigits[n]? = some (hexDigit n) := by decide

theorem isAlphanum_of_mem_hexDigits : ∀ c ∈ hexDigits, c.isAlphanum = true :=
  List.all_eq_true.1 (by decide)

end Text

namespace Digest

theorem toNat_high (b : UInt8) : (b >>> 4).toNat = b.toNat / 16 := by
  rw [UInt8.toNat_shiftRight, Nat.shiftRight_eq_div_pow]
  rfl

theorem toNat_low (b : UInt8) : (b &&& 0x0f).toNat = b.toNat % 16 := by
  rw [UInt8.toNat_and]
  exact Nat.and_two_pow_sub_one_eq_mod b.toNat 4

theorem hexByte_eq (b : UInt8) :
    (hexByte b).map some =
      [Text.hexDigits[(b >>> 4).toNat]?, Text.hexDigits[(b &&& 0x0f).toNat]?] := by
  have hb := b.toNat_lt
  rw [toNat_high, toNat_low, Text.getElem?_hexDigits _ (by omega),
    Text.getElem?_hexDigits _ (by omega)]
  rfl

theorem hexByte_subset (b : UInt8) : hexByte b ⊆ Text.hexDigits := by
  intro c hc
  have hplace : some c ∈ (hexByte b).map some := List.mem_map_of_mem hc
  simp only [hexByte_eq, List.mem_cons, List.not_mem_nil, or_false] at hplace
  rcases hplace with h | h
  · exact List.mem_of_getElem? h.symm
  · exact List.mem_of_getElem? h.symm

theorem hexChars_subset (bytes : List UInt8) : hexChars bytes ⊆ Text.hexDigits := by
  intro c hc
  obtain ⟨b, -, hb⟩ := List.mem_flatMap.1 hc
  exact hexByte_subset b hb

theorem isAlphanum_of_mem_hexChars {bytes : List UInt8} {c : Char} (h : c ∈ hexChars bytes) :
    c.isAlphanum = true :=
  Text.isAlphanum_of_mem_hexDigits c (hexChars_subset bytes h)

theorem hexChars_cons (b : UInt8) (bytes : List UInt8) :
    hexChars (b :: bytes) =
      Text.hexDigit (b.toNat / 16) :: Text.hexDigit (b.toNat % 16) :: hexChars bytes := rfl

theorem length_hexChars (bytes : List UInt8) : (hexChars bytes).length = 2 * bytes.length := by
  induction bytes with
  | nil => rfl
  | cons b bytes ih =>
    simp only [hexChars_cons, List.length_cons, ih]
    omega

theorem bytes?_hexChars (bytes : List UInt8) : bytes? (hexChars bytes) = some bytes := by
  induction bytes with
  | nil => rfl
  | cons b bytes ih =>
    have hb := b.toNat_lt
    have hjoined : 16 * (b.toNat / 16) + b.toNat % 16 = b.toNat := Nat.div_add_mod b.toNat 16
    rw [hexChars_cons, bytes?, Text.hexValue?_hexDigit _ (by omega),
      Text.hexValue?_hexDigit _ (by omega), ih]
    simp only [hjoined, UInt8.ofNat_toNat]

@[simp] theorem toList_hex (bytes : List UInt8) : (hex bytes).toList = hexChars bytes :=
  String.toList_ofList

theorem length_hex (bytes : List UInt8) : (hex bytes).length = 2 * bytes.length := by
  rw [← String.length_toList, toList_hex, length_hexChars]

theorem utf8ByteSize_hex (bytes : List UInt8) : (hex bytes).utf8ByteSize = 2 * bytes.length := by
  rw [hex, Text.utf8ByteSize_eq_length fun _ => isAlphanum_of_mem_hexChars, length_hexChars]

theorem hex_injective : Function.Injective hex := by
  intro bytes other h
  have hread := bytes?_hexChars bytes
  rw [← toList_hex, h, toList_hex, bytes?_hexChars] at hread
  exact (Option.some.inj hread).symm

@[simp] theorem toList_short (n : Nat) (digest : String) :
    (short n digest).toList = digest.toList.take n :=
  String.toList_ofList

theorem length_short_hex (n : Nat) (bytes : List UInt8) :
    (short n (hex bytes)).length = min n (2 * bytes.length) := by
  rw [← String.length_toList, toList_short, toList_hex, List.length_take, length_hexChars]

theorem short_hex_subset (n : Nat) (bytes : List UInt8) :
    (short n (hex bytes)).toList ⊆ Text.hexDigits := by
  rw [toList_short, toList_hex]
  exact fun c hc => hexChars_subset bytes (List.mem_of_mem_take hc)

theorem upTo?_hex (bytes : List UInt8) (place : Nat) :
    Text.upTo? place (hex bytes) =
      if place ≤ 2 * bytes.length then some (short place (hex bytes)) else none := by
  rw [short, toList_hex, hex, Text.upTo?_ofList fun _ => isAlphanum_of_mem_hexChars,
    length_hexChars]

/-- The cut is made at the end where more is asked for than there is. -/
theorem upTo?_min_hex (n : Nat) (bytes : List UInt8) :
    Text.upTo? (min n (hex bytes).utf8ByteSize) (hex bytes) = some (short n (hex bytes)) := by
  have hshort : short (min n (2 * bytes.length)) (hex bytes) = short n (hex bytes) := by
    rw [← String.toList_inj, toList_short, toList_short, toList_hex, ← length_hexChars,
      ← List.take_take, List.take_length]
  rw [utf8ByteSize_hex, upTo?_hex, if_pos (Nat.min_le_right ..), hshort]

end Digest

namespace Revision

/-- A key that follows the content ends in twelve digits of the digest. -/
theorem contentHash_key (base : Template) (bundles : List Bundle) :
    contentHash.deploymentKey base bundles =
      .ok ("ApiDeployment" ++ Digest.short 12 (contentDigest base bundles)) := rfl

theorem length_short_contentDigest (base : Template) (bundles : List Bundle) :
    (Digest.short 12 (contentDigest base bundles)).length = 12 := by
  rw [contentDigest, Digest.hexOf, Digest.length_short_hex, Digest.length_sha256]
  rfl

end Revision

namespace Digest

/-- Bytes are written with two digits each, and no other bytes are written so. A short form is the
beginning of the digest, of the length that is asked for or all of it, and is cut at a place that the
digest has. A deployment key that follows the content ends in just twelve digits. -/
theorem hex_faithful :
    (∀ bytes : List UInt8,
      (hex bytes).length = 2 * bytes.length ∧
      (hex bytes).toList ⊆ Text.hexDigits ∧
      bytes? (hex bytes).toList = some bytes ∧
      ∀ n, (short n (hex bytes)).toList <+: (hex bytes).toList ∧
        (short n (hex bytes)).length = min n (2 * bytes.length) ∧
        Text.upTo? (min n (hex bytes).utf8ByteSize) (hex bytes) = some (short n (hex bytes))) ∧
    Function.Injective hex ∧
    ∀ base bundles, ∃ suffix,
      Revision.contentHash.deploymentKey base bundles = .ok ("ApiDeployment" ++ suffix) ∧
      suffix.length = 12 ∧
      suffix.toList ⊆ Text.hexDigits ∧
      suffix.toList <+: (Revision.contentDigest base bundles).toList := by
  refine ⟨fun bytes => ⟨length_hex bytes, ?_, ?_, fun n => ⟨?_, ?_, ?_⟩⟩, hex_injective,
    fun base bundles => ⟨_, Revision.contentHash_key base bundles, ?_, ?_, ?_⟩⟩
  · rw [toList_hex]
    exact hexChars_subset bytes
  · rw [toList_hex]
    exact bytes?_hexChars bytes
  · rw [toList_short]
    exact List.take_prefix n _
  · exact length_short_hex n bytes
  · exact upTo?_min_hex n bytes
  · exact Revision.length_short_contentDigest base bundles
  · exact short_hex_subset 12 _
  · rw [toList_short]
    exact List.take_prefix 12 _

end Digest
end RuleStack

namespace RuleStack.Revision

theorem tokenFits_iff (token : String) :
    tokenFits token = true ↔
      1 ≤ token.length ∧ token.length ≤ 64 ∧ ∀ c ∈ token.toList, c.isAlphanum = true := by
  have hempty : token.isEmpty = false ↔ 1 ≤ token.length := by
    rw [Bool.eq_false_iff, Ne, String.isEmpty_iff, ← String.length_eq_zero_iff]
    omega
  have hsize (h : ∀ c ∈ token.toList, c.isAlphanum = true) :
      token.utf8ByteSize = token.length := by
    have := Text.utf8ByteSize_eq_length h
    rwa [String.ofList_toList, String.length_toList] at this
  simp only [tokenFits, Bool.and_eq_true, Bool.not_eq_true', decide_eq_true_eq, hempty,
    List.all_eq_true]
  constructor
  · rintro ⟨⟨hpos, hle⟩, hall⟩
    exact ⟨hpos, hsize hall ▸ hle, hall⟩
  · rintro ⟨hpos, hle, hall⟩
    exact ⟨⟨hpos, (hsize hall).symm ▸ hle⟩, hall⟩

theorem checkToken_ok_iff (token : String) :
    checkToken token = .ok () ↔ tokenFits token = true := by
  rw [checkToken]
  split <;> simp_all

theorem deploymentKey_ok_iff (r : Revision) (base : Template) (bundles : List Bundle) :
    (∃ key, r.deploymentKey base bundles = .ok key) ↔
      ∀ token, r = .token token → tokenFits token = true := by
  cases r with
  | fixed => simp [deploymentKey]
  | contentHash => simp [deploymentKey]
  | token t =>
    simp only [deploymentKey, token.injEq, forall_eq', ← checkToken_ok_iff]
    cases checkToken t <;> simp [Except.map]

theorem exists_suffix {r : Revision} {base : Template} {bundles : List Bundle} {key : String}
    (h : r.deploymentKey base bundles = .ok key) : ∃ suffix, key = Key.deployment suffix := by
  cases r with
  | fixed =>
    cases h
    exact ⟨"", rfl⟩
  | contentHash =>
    cases h
    exact ⟨_, rfl⟩
  | token t =>
    simp only [deploymentKey] at h
    cases hc : checkToken t with
    | error e => rw [hc] at h; cases h
    | ok _ =>
      rw [hc] at h
      cases h
      exact ⟨t, rfl⟩

/-- A key that can be made ends in at most sixty-four letters and digits. -/
theorem suffix_of_fits {r : Revision} (h : ∀ token, r = .token token → tokenFits token = true)
    (base : Template) (bundles : List Bundle) :
    ∃ suffix, r.deploymentKey base bundles = .ok (Key.deployment suffix) ∧ suffix.length ≤ 64 ∧
      ∀ c ∈ suffix.toList, c.isAlphanum = true := by
  cases r with
  | fixed => exact ⟨"", rfl, by decide, by simp⟩
  | token t =>
    have ht := h t rfl
    obtain ⟨-, hlength, hall⟩ := (tokenFits_iff t).1 ht
    exact ⟨t, by rw [deploymentKey, (checkToken_ok_iff t).2 ht]; rfl, hlength, hall⟩
  | contentHash =>
    refine ⟨_, contentHash_key base bundles, ?_, fun c hc => ?_⟩
    · rw [length_short_contentDigest]
      decide
    · exact Text.isAlphanum_of_mem_hexDigits c (Digest.short_hex_subset 12 _ hc)

theorem toList_deployment (suffix : String) :
    (Key.deployment suffix).toList = "ApiDeployment".toList ++ suffix.toList :=
  String.toList_append

theorem deployment_ne {key : String} (h : ¬ "ApiDeployment".toList <+: key.toList)
    (suffix : String) : Key.deployment suffix ≠ key := by
  rintro rfl
  exact h (toList_deployment suffix ▸ List.prefix_append _ _)

end RuleStack.Revision
