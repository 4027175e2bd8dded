import RuleStack.Proofs.Json.Structure
set_option autoImplicit false

namespace RuleStack.Json

mutual
/-- The tokens of any text of the value that keeps the order of its members. -/
def tokens : Json → List Token
  | .str value => [.text value]
  | .arr items => .openArray :: (tokensItems items ++ [.closeArray])
  | .obj members => .openObject :: (tokensMembers members ++ [.closeObject])
  | v => [.scalar v]

def tokensItems : List Json → List Token
  | [] => []
  | [item] => tokens item
  | item :: rest => tokens item ++ .comma :: tokensItems rest

def tokensMembers : List (String × Json) → List Token
  | [] => []
  | [(key, value)] => .text key :: .colon :: tokens value
  | (key, value) :: rest => .text key :: .colon :: (tokens value ++ .comma :: tokensMembers rest)
end

def commaJoined : List (List Token) → List Token
  | [] => []
  | [ts] => ts
  | ts :: rest => ts ++ .comma :: commaJoined rest

theorem tokensItems_eq (items : List Json) :
    tokensItems items = commaJoined (items.map tokens) := by
  induction items with
  | nil => rfl
  | cons item rest ih =>
    cases rest with
    | nil => rfl
    | cons next rest => exact congrArg (item.tokens ++ .comma :: ·) ih

def memberTokens (member : String × Json) : List Token :=
  .text member.1 :: .colon :: member.2.tokens

theorem tokensMembers_eq (members : List (String × Json)) :
    tokensMembers members = commaJoined (members.map memberTokens) := by
  induction members with
  | nil => rfl
  | cons member rest ih =>
    cases rest with
    | nil => rfl
    | cons next rest => exact congrArg (memberTokens member ++ .comma :: ·) ih

namespace Reader

def steps (r : Reader) : List Token → Except ParseFault Reader
  | [] => .ok r
  | token :: rest =>
    match r.step token with
    | .ok r => steps r rest
    | .error fault => .error fault

theorem steps_append (r : Reader) (first second : List Token) :
    r.steps (first ++ second) = (r.steps first).bind (·.steps second) := by
  induction first generalizing r with
  | nil => rfl
  | cons token rest ih =>
    rw [List.cons_append, steps, steps]
    cases r.step token with
    | ok r => exact ih r
    | error fault => rfl

theorem steps_singleton (r : Reader) (token : Token) : r.steps [token] = r.step token := by
  rw [steps]
  cases r.step token <;> rfl

abbrev Room (frames : List Frame) (depth : Nat) : Prop := frames.length + depth ≤ maxDepth

theorem room_cons (frame : Frame) (frames : List Frame) (depth : Nat) :
    Room (frame :: frames) depth ↔ Room frames (depth + 1) := by
  unfold Room
  rw [List.length_cons]
  omega

/-- The reader takes in the value in its normal form, if there is room for it. -/
def Takes (v : Json) : Prop :=
  ∀ frames, frames.length ≤ maxDepth → (Reader.mk .value frames).steps v.tokens =
    if Room frames v.depth then accept frames v.normalize else .error .tooDeep

theorem Takes.steps_append {v : Json} (h : Takes v) {frames : List Frame}
    (hframes : frames.length ≤ maxDepth) (rest : List Token) :
    (Reader.mk .value frames).steps (v.tokens ++ rest) =
      if Room frames v.depth then (accept frames v.normalize).bind (·.steps rest)
      else .error .tooDeep := by
  rw [Reader.steps_append, h frames hframes]
  split <;> rfl

/-- How the reader goes through a container: the tokens around its parts, where a part is read, and
what the parts are read into. -/
structure Container (β : Type) where
  opening : Token
  closing : Token
  first : Focus
  next : Focus
  frame : List β → Frame
  result : List β → Json
  step_opening (frames : List Frame) :
    (Reader.mk .value frames).step opening = enter frames (frame []) first
  step_closing_first (frames : List Frame) :
    (Reader.mk first (frame [] :: frames)).step closing = accept frames (result [])
  step_comma (read : List β) (frames : List Frame) :
    (Reader.mk .next (frame read :: frames)).step .comma = .ok ⟨next, frame read :: frames⟩
  step_closing (read : List β) (frames : List Frame) :
    (Reader.mk .next (frame read :: frames)).step closing = accept frames (result read.reverse)

namespace Container

def array : Container Json where
  opening := .openArray
  closing := .closeArray
  first := .firstItem
  next := .value
  frame := .array
  result := .arr
  step_opening _ := rfl
  step_closing_first _ := rfl
  step_comma _ _ := rfl
  step_closing _ _ := rfl

def object : Container (String × Json) where
  opening := .openObject
  closing := .closeObject
  first := .firstKey
  next := .key
  frame := .object
  result := Json.object
  step_opening _ := rfl
  step_closing_first _ := rfl
  step_comma _ _ := rfl
  step_closing _ _ := rfl

variable {α β : Type}

structure TakesPart (c : Container β) (ts : List Token) (part : β) (depth : Nat) : Prop where
  steps_eq (read : List β) (frames : List Frame) (rest : List Token) :
    frames.length < maxDepth → (Reader.mk c.next (c.frame read :: frames)).steps (ts ++ rest) =
      if Room frames (depth + 1) then
        (Reader.mk .next (c.frame (part :: read) :: frames)).steps rest
      else .error .tooDeep
  steps_first (frames : List Frame) (rest : List Token) :
    (Reader.mk c.first frames).steps (ts ++ rest) = (Reader.mk c.next frames).steps (ts ++ rest)

variable {c : Container β} {tokens : α → List Token} {part : α → β} {depth : α → Nat}

/-- Parts after those that were read, the last one first, up to the end of the container. -/
theorem steps_parts {xs : List α} (hne : xs ≠ [])
    (h : ∀ x ∈ xs, c.TakesPart (tokens x) (part x) (depth x)) (read : List β) {frames : List Frame}
    (hframes : frames.length < maxDepth) :
    (Reader.mk c.next (c.frame read :: frames)).steps
        (commaJoined (xs.map tokens) ++ [c.closing]) =
      if ∀ x ∈ xs, Room frames (depth x + 1) then
        accept frames (c.result (read.reverse ++ xs.map part))
      else .error .tooDeep := by
  induction xs generalizing read with
  | nil => contradiction
  | cons x rest ih =>
    have hx := (h x List.mem_cons_self).steps_eq
    cases rest with
    | nil =>
      have hclose : (Reader.mk .next (c.frame (part x :: read) :: frames)).steps [c.closing] =
          accept frames (c.result (read.reverse ++ [x].map part)) := by
        rw [steps_singleton, c.step_closing, List.reverse_cons, List.map_singleton]
      rw [List.map_singleton, commaJoined, hx read frames _ hframes, hclose]
      simp only [List.forall_mem_singleton]
    | cons y rest =>
      have hrest := ih (by simp) (fun z hz => h z (List.mem_cons_of_mem _ hz)) (part x :: read)
      have hnext (ts : List Token) :
          (Reader.mk .next (c.frame (part x :: read) :: frames)).steps (.comma :: ts) =
            (Reader.mk c.next (c.frame (part x :: read) :: frames)).steps ts := by
        rw [steps, c.step_comma]
      have hread : (part x :: read).reverse ++ (y :: rest).map part =
          read.reverse ++ (x :: y :: rest).map part := by simp
      have hjoined : commaJoined ((x :: y :: rest).map tokens) ++ [c.closing] =
          tokens x ++ .comma :: (commaJoined ((y :: rest).map tokens) ++ [c.closing]) :=
        List.append_assoc ..
      rw [hjoined, hx read frames _ hframes, hnext, hrest, hread]
      by_cases hroom : Room frames (depth x + 1)
      · rw [if_pos hroom]
        simp only [List.forall_mem_cons, hroom, true_and]
      · rw [if_neg hroom, if_neg fun hall => hroom (hall x List.mem_cons_self)]

theorem steps_whole {xs : List α} (h : ∀ x ∈ xs, c.TakesPart (tokens x) (part x) (depth x))
    {deepest : Nat} (hdeepest : ∀ n, deepest ≤ n ↔ ∀ x ∈ xs, depth x ≤ n) (frames : List Frame) :
    (Reader.mk .value frames).steps
        (c.opening :: (commaJoined (xs.map tokens) ++ [c.closing])) =
      if Room frames (deepest + 1) then accept frames (c.result (xs.map part))
      else .error .tooDeep := by
  rw [steps, c.step_opening, enter]
  by_cases hframes : frames.length < maxDepth
  · have hroom : Room frames (deepest + 1) ↔ ∀ x ∈ xs, Room frames (depth x + 1) := by
      have hbelow (n : Nat) : Room frames (n + 1) ↔ n ≤ maxDepth - (frames.length + 1) := by
        unfold Room
        omega
      simp only [hbelow, hdeepest]
    rw [if_pos hframes]
    simp only [hroom]
    cases xs with
    | nil =>
      have hempty := (steps_singleton _ _).trans (c.step_closing_first frames)
      exact hempty.trans (if_pos (by simp)).symm
    | cons x rest =>
      have hfirst : ∃ ts, commaJoined ((x :: rest).map tokens) ++ [c.closing] = tokens x ++ ts := by
        cases rest with
        | nil => exact ⟨_, rfl⟩
        | cons y rest => exact ⟨_, List.append_assoc ..⟩
      obtain ⟨ts, hts⟩ := hfirst
      have hparts := steps_parts (by simp) h [] hframes
      rw [hts] at hparts ⊢
      exact ((h x List.mem_cons_self).steps_first _ ts).trans hparts
  · have hnone : ¬ Room frames (deepest + 1) := by
      unfold Room
      omega
    rw [if_neg hframes, if_neg hnone]

end Container

theorem Takes.item {v : Json} (h : Takes v) :
    Container.array.TakesPart v.tokens v.normalize v.depth where
  steps_eq read frames rest hframes := by
    have hlength : (Frame.array read :: frames).length ≤ maxDepth := hframes
    have hsteps := h.steps_append hlength rest
    simp only [room_cons] at hsteps
    exact hsteps
  steps_first frames rest := by cases v <;> rfl

theorem Takes.member {member : String × Json} (h : Takes member.2) :
    Container.object.TakesPart (memberTokens member) (member.1, member.2.normalize)
      member.2.depth where
  steps_eq read frames rest hframes := by
    have hlength : (Frame.member member.1 read :: frames).length ≤ maxDepth := hframes
    have hsteps := h.steps_append hlength rest
    simp only [room_cons] at hsteps
    exact hsteps
  steps_first frames rest := rfl

/-- The reader takes in any value that does not nest too deep. -/
theorem steps_tokens (v : Json) : Takes v := by
  induction v using induct with
  | null => exact fun frames hframes => (steps_singleton _ _).trans (if_pos hframes).symm
  | bool value => exact fun frames hframes => (steps_singleton _ _).trans (if_pos hframes).symm
  | num value => exact fun frames hframes => (steps_singleton _ _).trans (if_pos hframes).symm
  | str value => exact fun frames hframes => (steps_singleton _ _).trans (if_pos hframes).symm
  | arr items ih =>
    intro frames _
    rw [tokens, tokensItems_eq, normalize, normalizeItems_eq]
    exact Container.array.steps_whole (fun v hv => (ih v hv).item) (depthItems_le_iff items) frames
  | obj members ih =>
    intro frames _
    rw [tokens, tokensMembers_eq, normalize, normalizeMembers_eq]
    exact Container.object.steps_whole (fun e he => (ih e he).member) (depthMembers_le_iff members)
      frames

end Reader

/-- Reading `cs` from the front gives these tokens and leaves `rest`. -/
inductive Scans : List Char → List Token → List Char → Prop where
  | done (cs : List Char) : Scans cs [] cs
  | blank {c : Char} {cs rest : List Char} {ts : List Token} (hc : isSpace c = true)
      (hcs : Scans cs ts rest) : Scans (c :: cs) ts rest
  | token {c : Char} {cs after rest : List Char} {t : Token} {ts : List Token}
      (hc : isSpace c = false) (ht : readToken? (c :: cs) = some (t, after))
      (hafter : Scans after ts rest) : Scans (c :: cs) (t :: ts) rest

theorem Scans.append {as bs cs : List Char} {ts us : List Token} (h : Scans as ts bs)
    (h' : Scans bs us cs) : Scans as (ts ++ us) cs := by
  induction h with
  | done => exact h'
  | blank hc _ ih => exact .blank hc (ih h')
  | token hc ht _ ih => exact .token hc ht (ih h')

namespace Reader

theorem run_blank {c : Char} (hc : isSpace c = true) (r : Reader) (cs : List Char) :
    r.run (c :: cs) = r.run cs := by
  rw [run, if_pos hc]

theorem run_token {c : Char} {cs after : List Char} {t : Token} (hc : isSpace c = false)
    (ht : readToken? (c :: cs) = some (t, after)) (r : Reader) :
    r.run (c :: cs) =
      match r.step t with
      | .error fault => .error (fault, c :: cs)
      | .ok r => r.run after := by
  rw [run]
  simp only [hc, Bool.false_eq_true, if_false]
  split
  · rename_i hnone
    rw [ht] at hnone
    cases hnone
  · rename_i token rest hsome
    rw [ht] at hsome
    cases hsome
    rfl

theorem run_of_scans_ok {cs rest : List Char} {ts : List Token} (h : Scans cs ts rest)
    {r r' : Reader} (hsteps : r.steps ts = .ok r') : r.run cs = r'.run rest := by
  induction h generalizing r with
  | done =>
    cases hsteps
    rfl
  | blank hc _ ih => rw [run_blank hc, ih hsteps]
  | token hc ht _ ih =>
    rw [steps] at hsteps
    rw [run_token hc ht]
    split at hsteps
    · rename_i hstep
      rw [hstep]
      exact ih hsteps
    · cases hsteps

theorem run_of_scans_error {cs rest : List Char} {ts : List Token} (h : Scans cs ts rest)
    {r : Reader} {fault : ParseFault} (hsteps : r.steps ts = .error fault) :
    ∃ place, r.run cs = .error (fault, place) := by
  induction h generalizing r with
  | done => cases hsteps
  | blank hc _ ih =>
    rw [run_blank hc]
    exact ih hsteps
  | token hc ht _ ih =>
    rw [steps] at hsteps
    rw [run_token hc ht]
    split at hsteps
    · rename_i hstep
      rw [hstep]
      exact ih hsteps
    · rename_i hstep
      cases hsteps
      exact ⟨_, by rw [hstep]⟩

end Reader

/-- A text of a value is read as its normal form, or not at all where it nests too deep. -/
theorem parseChars_eq_ok_iff {cs : List Char} {v : Json} (h : Scans cs v.tokens []) (w : Json) :
    parseChars cs = .ok w ↔ v.depth ≤ maxDepth ∧ w = v.normalize := by
  have hsteps := Reader.steps_tokens v [] (Nat.zero_le _)
  by_cases hdepth : v.depth ≤ maxDepth
  · have hroom : Reader.Room [] v.depth := by
      unfold Reader.Room
      rwa [List.length_nil, Nat.zero_add]
    rw [if_pos hroom] at hsteps
    have hrun : Reader.start.run cs = .ok v.normalize := by
      rw [Reader.start, Reader.run_of_scans_ok h hsteps, Reader.run]
    unfold parseChars
    rw [hrun]
    simp [hdepth, eq_comm]
  · have hroom : ¬ Reader.Room [] v.depth := by
      unfold Reader.Room
      rwa [List.length_nil, Nat.zero_add]
    rw [if_neg hroom] at hsteps
    obtain ⟨place, hrun⟩ := Reader.run_of_scans_error h hsteps
    unfold parseChars Reader.start
    rw [hrun]
    simp [hdepth]

end RuleStack.Json
