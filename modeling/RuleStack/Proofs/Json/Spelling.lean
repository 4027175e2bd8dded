import RuleStack.Proofs.Json.Tokens
set_option autoImplicit false

namespace RuleStack.Json

variable {α β : Type}

def quotedKey (key : String) : String := String.ofList (Escape.quote key)

theorem quotedKey_injective (a b : String) (h : quotedKey a = quotedKey b) : a = b := by
  have hquote : Escape.quote a = Escape.quote b := String.ofList_injective h
  have hencode : Escape.encode a.toList ++ ['"'] = Escape.encode b.toList ++ ['"'] :=
    (List.cons.inj hquote).2
  have hread := Escape.decode_encode [] a.toList []
  rw [hencode, Escape.decode_encode] at hread
  simpa [String.toList_inj, eq_comm] using hread

def byQuotedKey (members : List (String × α)) : List (String × α) :=
  (KeyMap.ofList (members.map fun e => (quotedKey e.1, e))).values

theorem mem_of_mem_byQuotedKey {members : List (String × α)} {e : String × α}
    (h : e ∈ byQuotedKey members) : e ∈ members := by
  obtain ⟨named, hnamed, rfl⟩ := List.mem_map.1 h
  obtain ⟨f, hf, rfl⟩ := List.mem_map.1 (KeyMap.mem_of_mem_ofList hnamed)
  exact hf

theorem byQuotedKey_perm (members : List (String × α)) :
    (byQuotedKey members).Perm (KeyMap.ofList members).entries := by
  have hnamed := (KeyMap.entries_ofList_rename_perm quotedKey_injective id members).map (·.2)
  rw [List.map_map] at hnamed
  exact hnamed.trans (.of_eq (List.map_id _))

theorem ofList_byQuotedKey (members : List (String × α)) :
    KeyMap.ofList (byQuotedKey members) = KeyMap.ofList members := by
  have hperm := byQuotedKey_perm members
  have hnodup := KeyMap.nodup_of_perm hperm.symm
  exact KeyMap.eq_of_perm ((KeyMap.entries_ofList_perm hnodup).trans hperm)

theorem byQuotedKey_map (f : α → β) (members : List (String × α)) :
    byQuotedKey (members.map fun e => (e.1, f e.2)) =
      (byQuotedKey members).map fun e => (e.1, f e.2) := by
  have hmap := KeyMap.entries_ofList_map (fun e : String × α => (e.1, f e.2))
    (members.map fun e => (quotedKey e.1, e))
  rw [List.map_map] at hmap
  unfold byQuotedKey KeyMap.values
  rw [List.map_map, List.map_map]
  exact (congrArg (List.map (·.2)) hmap).trans (List.map_map ..)

theorem entries_ofList_quoted (f : α → β) (members : List (String × α)) :
    (KeyMap.ofList (members.map fun e => (quotedKey e.1, f e.2))).entries =
      (byQuotedKey members).map fun e => (quotedKey e.1, f e.2) := by
  have hmap := KeyMap.entries_ofList_map (fun e : String × α => f e.2)
    (members.map fun e => (quotedKey e.1, e))
  rw [List.map_map] at hmap
  unfold byQuotedKey KeyMap.values
  rw [List.map_map]
  refine hmap.trans (List.map_congr_left fun named hnamed => ?_)
  obtain ⟨e, -, rfl⟩ := List.mem_map.1 (KeyMap.mem_of_mem_ofList hnamed)
  rfl

mutual
/-- The value with the members of every object in the order of the canonical text. -/
def arrange : Json → Json
  | .arr items => .arr (arrangeItems items)
  | .obj members => .obj (byQuotedKey (arrangeMembers members))
  | v => v

def arrangeItems : List Json → List Json
  | [] => []
  | item :: rest => arrange item :: arrangeItems rest

def arrangeMembers : List (String × Json) → List (String × Json)
  | [] => []
  | (key, value) :: rest => (key, arrange value) :: arrangeMembers rest
end

theorem arrangeItems_eq (items : List Json) : arrangeItems items = items.map arrange := by
  induction items with
  | nil => rfl
  | cons item rest ih => rw [arrangeItems, ih, List.map_cons]

theorem arrangeMembers_eq (members : List (String × Json)) :
    arrangeMembers members = members.map fun e => (e.1, e.2.arrange) := by
  induction members with
  | nil => rfl
  | cons e rest ih => rw [arrangeMembers, ih, List.map_cons]

theorem normalize_arrange (v : Json) : v.arrange.normalize = v.normalize := by
  induction v using induct with
  | null => rfl
  | bool => rfl
  | num => rfl
  | str => rfl
  | arr items ih =>
    simp only [arrange, normalize, arrangeItems_eq, normalizeItems_eq, List.map_map]
    exact congrArg arr (List.map_congr_left ih)
  | obj members ih =>
    have hmembers : members.map (fun e => (e.1, e.2.arrange.normalize)) =
        members.map (fun e => (e.1, e.2.normalize)) :=
      List.map_congr_left fun e he => by rw [ih e he]
    simp only [arrange, normalize, object, arrangeMembers_eq, normalizeMembers_eq,
      ← byQuotedKey_map, List.map_map, ofList_byQuotedKey]
    exact congrArg (fun ms => obj (KeyMap.ofList ms).entries) hmembers

/-- Both orders leave out the same members. -/
theorem depth_arrange (v : Json) : v.arrange.depth = v.normalize.depth := by
  induction v using induct with
  | null => rfl
  | bool => rfl
  | num => rfl
  | str => rfl
  | arr items ih =>
    rw [arrange, normalize, arrangeItems_eq, normalizeItems_eq, depth, depth]
    refine congrArg (· + 1) (depthItems_congr fun n => ?_)
    rw [List.forall_mem_map, List.forall_mem_map]
    exact forall₂_congr fun v hv => by rw [ih v hv]
  | obj members ih =>
    rw [arrange, normalize, object, arrangeMembers_eq, normalizeMembers_eq, byQuotedKey_map,
      KeyMap.entries_ofList_map, depth, depth]
    refine congrArg (· + 1) (depthMembers_congr fun n => ?_)
    rw [List.forall_mem_map, List.forall_mem_map]
    refine forall_congr' fun e => ?_
    rw [(byQuotedKey_perm members).mem_iff]
    exact forall_congr' fun he => by rw [ih e (KeyMap.mem_of_mem_ofList he)]

end RuleStack.Json

namespace RuleStack.Json

/-- The text is read as these tokens, whatever follows it that does not go on with a number. -/
def Spells (text : List Char) (ts : List Token) : Prop :=
  ∀ rest, Stops rest → Scans (text ++ rest) ts rest

theorem stops_of_isSpace {c : Char} (hc : isSpace c = true) (tail : List Char) :
    Stops (c :: tail) := by
  refine stopsAt_cons ?_ tail
  simp only [isSpace, Bool.or_eq_true, beq_iff_eq] at hc
  rcases hc with ((rfl | rfl) | rfl) | rfl <;> decide

theorem scans_blanks {blanks : List Char} (h : ∀ c ∈ blanks, isSpace c = true) (cs : List Char) :
    Scans (blanks ++ cs) [] cs := by
  induction blanks with
  | nil => exact .done cs
  | cons c rest ih =>
    exact .blank (h c List.mem_cons_self) (ih fun d hd => h d (List.mem_cons_of_mem _ hd))

theorem Spells.blanks_append {blanks text : List Char} {ts : List Token}
    (hblanks : ∀ c ∈ blanks, isSpace c = true) (h : Spells text ts) :
    Spells (blanks ++ text) ts := by
  intro rest hrest
  rw [List.append_assoc]
  exact (scans_blanks hblanks _).append (h rest hrest)

theorem Spells.append_blanks {blanks text : List Char} {ts : List Token} (h : Spells text ts)
    (hblanks : ∀ c ∈ blanks, isSpace c = true) : Spells (text ++ blanks) ts := by
  intro rest hrest
  have hstops : Stops (blanks ++ rest) := by
    cases blanks with
    | nil => exact hrest
    | cons c tail => exact stops_of_isSpace (hblanks c List.mem_cons_self) _
  have hscans := (h _ hstops).append (scans_blanks hblanks rest)
  rw [List.append_nil] at hscans
  rw [List.append_assoc]
  exact hscans

theorem spells_null : Spells "null".toList [.scalar .null] :=
  fun rest _ => .token rfl rfl (.done rest)

theorem spells_bool (value : Bool) : Spells (boolText value) [.scalar (.bool value)] := by
  intro rest _
  cases value with
  | true => exact .token rfl rfl (.done rest)
  | false => exact .token rfl rfl (.done rest)

theorem spells_quote (s : String) : Spells (Escape.quote s) [.text s] := by
  intro rest _
  have hread : readToken? ('"' :: (Escape.encode s.toList ++ '"' :: rest)) =
      some (.text s, rest) := by
    simp [readToken?, Escape.decode_encode]
  have hscans : Scans ('"' :: (Escape.encode s.toList ++ '"' :: rest)) [.text s] rest :=
    .token rfl hread (.done rest)
  simpa [Escape.quote] using hscans

theorem exists_head_of_readUnsigned? {negative : Bool} {cs rest : List Char} {n : Number}
    (h : readUnsigned? negative cs = some (n, rest)) :
    ∃ c tail, cs = c :: tail ∧ c.isDigit = true := by
  simp only [readUnsigned?, Option.bind_eq_bind, Option.bind_eq_some_iff] at h
  obtain ⟨⟨ds, after⟩, hwhole, -⟩ := h
  unfold readWhole? at hwhole
  split at hwhole
  · exact ⟨'0', _, rfl, rfl⟩
  · unfold readDigits? at hwhole
    cases cs with
    | nil => cases hwhole
    | cons c tail =>
      by_cases hc : c.isDigit = true
      · exact ⟨c, tail, rfl, hc⟩
      · simp [hc] at hwhole

theorem isSpace_of_isDigit {c : Char} (hc : c.isDigit = true) : isSpace c = false := by
  rw [← Bool.not_eq_true]
  intro hspace
  simp only [isSpace, Bool.or_eq_true, beq_iff_eq] at hspace
  rcases hspace with ((rfl | rfl) | rfl) | rfl <;> exact absurd hc (by decide)

theorem readToken?_of_isDigit {c : Char} (hc : c.isDigit = true) (tail : List Char) :
    readToken? (c :: tail) = (readNumber? (c :: tail)).map fun p => (.scalar (.num p.1), p.2) := by
  unfold readToken?
  split <;> try rfl
  all_goals
    rename_i he
    cases he
    exact absurd hc (by decide)

theorem readToken?_of_readNumber? {cs rest : List Char} {n : Number}
    (h : readNumber? cs = some (n, rest)) :
    ∃ c tail, cs = c :: tail ∧ isSpace c = false ∧
      readToken? (c :: tail) = some (.scalar (.num n), rest) := by
  unfold readNumber? at h
  split at h
  · rename_i tail
    have hread : readToken? ('-' :: tail) =
        (readUnsigned? true tail).map fun p => (.scalar (.num p.1), p.2) := rfl
    refine ⟨'-', tail, rfl, rfl, ?_⟩
    rw [hread, h]
    rfl
  · rename_i hsign
    obtain ⟨c, tail, rfl, hc⟩ := exists_head_of_readUnsigned? h
    have hread : readNumber? (c :: tail) = readUnsigned? false (c :: tail) := by
      unfold readNumber?
      split
      · rename_i he
        exact absurd he (hsign _)
      · rfl
    refine ⟨c, tail, rfl, isSpace_of_isDigit hc, ?_⟩
    rw [readToken?_of_isDigit hc, hread, h]
    rfl

theorem spells_number {text : List Char} {n : Number}
    (h : ∀ rest, Stops rest → readNumber? (text ++ rest) = some (n, rest)) :
    Spells text [.scalar (.num n)] := by
  intro rest hrest
  obtain ⟨c, tail, htext, hc, hread⟩ := readToken?_of_readNumber? (h rest hrest)
  rw [htext]
  exact .token hc hread (.done rest)

structure IsMark (c : Char) (t : Token) : Prop where
  isSpace_eq : isSpace c = false
  continues_eq : continuesNumber c = false
  readToken?_eq (rest : List Char) : readToken? (c :: rest) = some (t, rest)

theorem IsMark.scans {c : Char} {t : Token} (hc : IsMark c t) {cs rest : List Char}
    {ts : List Token} (h : Scans cs ts rest) : Scans (c :: cs) (t :: ts) rest :=
  .token hc.isSpace_eq (hc.readToken?_eq cs) h

theorem Spells.scans_mark {text after rest : List Char} {ts us : List Token} (h : Spells text ts)
    {c : Char} {t : Token} (hc : IsMark c t) (hafter : Scans after us rest) :
    Scans (text ++ c :: after) (ts ++ t :: us) rest :=
  (h (c :: after) (stopsAt_cons hc.continues_eq after)).append (hc.scans hafter)

theorem isMark_comma : IsMark ',' .comma := ⟨rfl, by decide, fun _ => rfl⟩

theorem isMark_colon : IsMark ':' .colon := ⟨rfl, by decide, fun _ => rfl⟩

theorem Spells.enclosed {text : List Char} {ts : List Token} (h : Spells text ts)
    {first last : Char} {opening closing : Token} (hfirst : IsMark first opening)
    (hlast : IsMark last closing) :
    Spells (first :: (text ++ [last])) (opening :: (ts ++ [closing])) := by
  intro rest _
  have hall := hfirst.scans (h.scans_mark hlast (.done rest))
  simpa using hall

theorem Spells.array {text : List Char} {ts : List Token} (h : Spells text ts) :
    Spells ('[' :: (text ++ [']'])) (.openArray :: (ts ++ [.closeArray])) :=
  h.enclosed ⟨rfl, by decide, fun _ => rfl⟩ ⟨rfl, by decide, fun _ => rfl⟩

theorem Spells.object {text : List Char} {ts : List Token} (h : Spells text ts) :
    Spells ('\x7b' :: (text ++ ['\x7d'])) (.openObject :: (ts ++ [.closeObject])) :=
  h.enclosed ⟨rfl, by decide, fun _ => rfl⟩ ⟨rfl, by decide, fun _ => rfl⟩

theorem Spells.member (key : String) {gap text : List Char} {ts : List Token}
    (hgap : ∀ c ∈ gap, isSpace c = true) (h : Spells text ts) :
    Spells (Escape.quote key ++ ':' :: (gap ++ text)) (.text key :: .colon :: ts) := by
  intro rest hrest
  have hall := (spells_quote key).scans_mark isMark_colon (h.blanks_append hgap rest hrest)
  simpa using hall

def joined (gap : List Char) : List (List Char) → List Char
  | [] => []
  | [text] => text
  | text :: rest => text ++ ',' :: (gap ++ joined gap rest)

theorem spells_joined {α : Type} {gap : List Char} (hgap : ∀ c ∈ gap, isSpace c = true)
    (text : α → List Char) (ts : α → List Token) (xs : List α)
    (h : ∀ x ∈ xs, Spells (text x) (ts x)) :
    Spells (joined gap (xs.map text)) (commaJoined (xs.map ts)) := by
  induction xs with
  | nil => exact fun rest _ => .done rest
  | cons x rest ih =>
    have hx := h x List.mem_cons_self
    cases rest with
    | nil => exact hx
    | cons y rest =>
      intro after hafter
      have hrest := ih (fun z hz => h z (List.mem_cons_of_mem _ hz))
      have hall := hx.scans_mark isMark_comma (hrest.blanks_append hgap after hafter)
      simpa [joined, commaJoined] using hall

theorem prettyItems_eq (level : Nat) (items : List Json) :
    prettyItems level items = joined (newline level) (items.map (prettyChars level)) := by
  induction items with
  | nil => rfl
  | cons item rest ih =>
    cases rest with
    | nil => rfl
    | cons next rest =>
      rw [prettyItems, ih]
      · rfl
      · simp

theorem prettyMembers_eq (level : Nat) (members : List (String × Json)) :
    prettyMembers level members = joined (newline level)
      (members.map fun e => Escape.quote e.1 ++ ':' :: ([' '] ++ prettyChars level e.2)) := by
  induction members with
  | nil => rfl
  | cons member rest ih =>
    cases rest with
    | nil => rfl
    | cons next rest =>
      rw [prettyMembers, ih]
      · simp [joined]
      · simp

theorem newline_blank (level : Nat) : ∀ c ∈ newline level, isSpace c = true := by
  intro c hc
  rcases List.mem_cons.1 hc with rfl | hc
  · rfl
  · rw [List.eq_of_mem_replicate hc]
    rfl

theorem spells_none : Spells [] [] := fun rest _ => .done rest

theorem spells_pretty (v : Json) (level : Nat) : Spells (prettyChars level v) v.tokens := by
  induction v using induct generalizing level with
  | null => exact spells_null
  | bool value => exact spells_bool value
  | num n => exact spells_number fun _ hrest => Layout.readNumber?_plain n hrest
  | str s => exact spells_quote s
  | arr items ih =>
    rw [tokens, tokensItems_eq]
    cases items with
    | nil => exact spells_none.array
    | cons item rest =>
      rw [prettyChars, prettyItems_eq]
      have hitems := spells_joined (newline_blank (level + 1)) (prettyChars (level + 1)) tokens
        (item :: rest) fun v hv => ih v hv (level + 1)
      exact ((hitems.blanks_append (newline_blank _)).append_blanks (newline_blank _)).array
  | obj members ih =>
    rw [tokens, tokensMembers_eq]
    cases members with
    | nil => exact spells_none.object
    | cons member rest =>
      rw [prettyChars, prettyMembers_eq]
      have hmembers := spells_joined (newline_blank (level + 1))
        (fun e => Escape.quote e.1 ++ ':' :: ([' '] ++ prettyChars (level + 1) e.2))
        memberTokens (member :: rest)
        fun e he => (ih e he (level + 1)).member e.1 (by simp [isSpace])
      exact ((hmembers.blanks_append (newline_blank _)).append_blanks (newline_blank _)).object

theorem canonicalItems_eq (items : List Json) :
    canonicalItems items = joined [] (items.map canonicalChars) := by
  induction items with
  | nil => rfl
  | cons item rest ih =>
    cases rest with
    | nil => rfl
    | cons next rest =>
      rw [canonicalItems, ih]
      · rfl
      · simp

theorem joinMembers_eq (members : List (String × List Char)) :
    joinMembers members = joined [] (members.map fun e => e.1.toList ++ ':' :: e.2) := by
  induction members with
  | nil => rfl
  | cons member rest ih =>
    cases rest with
    | nil => rfl
    | cons next rest =>
      rw [joinMembers, ih]
      · simp [joined]
      · simp

theorem canonicalMembers_eq (members : List (String × Json)) :
    canonicalMembers members = members.map fun e => (quotedKey e.1, canonicalChars e.2) := by
  induction members with
  | nil => rfl
  | cons e rest ih => rw [canonicalMembers, ih, List.map_cons, quotedKey]

theorem spells_canonical (v : Json) : Spells v.canonicalChars v.settle.arrange.tokens := by
  induction v using induct with
  | null => exact spells_null
  | bool value => exact spells_bool value
  | num n =>
    have hnumber : Spells (Layout.canonical.numberText n) [.scalar (.num n.settle)] :=
      spells_number fun _ hrest => Layout.readNumber?_canonical n hrest
    exact hnumber
  | str s => exact spells_quote s
  | arr items ih =>
    rw [settle, mapNumbers, arrange, tokens, tokensItems_eq, canonicalChars, canonicalItems_eq,
      mapNumbersItems_eq, arrangeItems_eq, List.map_map, List.map_map]
    exact (spells_joined (by simp) canonicalChars (fun v => v.settle.arrange.tokens) items ih).array
  | obj members ih =>
    have hmembers : Spells
        (joined [] ((byQuotedKey members).map fun e =>
          Escape.quote e.1 ++ ':' :: ([] ++ canonicalChars e.2)))
        (commaJoined ((byQuotedKey members).map fun e =>
          memberTokens (e.1, e.2.settle.arrange))) :=
      spells_joined (by simp) _ _ _ fun e he =>
        (ih e (mem_of_mem_byQuotedKey he)).member e.1 (by simp)
    have htext : joinMembers (KeyMap.ofList (canonicalMembers members)).entries =
        joined [] ((byQuotedKey members).map fun e =>
          Escape.quote e.1 ++ ':' :: ([] ++ canonicalChars e.2)) := by
      rw [joinMembers_eq, canonicalMembers_eq, entries_ofList_quoted, List.map_map]
      simp [Function.comp_def, quotedKey]
    have htokens : tokensMembers (byQuotedKey (arrangeMembers (mapNumbersMembers Number.settle
          members))) =
        commaJoined ((byQuotedKey members).map fun e =>
          memberTokens (e.1, e.2.settle.arrange)) := by
      rw [tokensMembers_eq, mapNumbersMembers_eq, arrangeMembers_eq, byQuotedKey_map,
        byQuotedKey_map, List.map_map, List.map_map]
      rfl
    rw [settle, mapNumbers, arrange, tokens, canonicalChars, htext, htokens]
    exact hmembers.object

end RuleStack.Json
