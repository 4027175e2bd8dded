import RuleStack.Proofs.Json.Structure
import RuleStack.Proofs.Outcome
set_option autoImplicit false

namespace RuleStack.Json

def Frame.Normal : Frame → Prop
  | .array items => ∀ v ∈ items, v.Normal
  | .object members => ∀ e ∈ members, e.2.Normal
  | .member _ members => ∀ e ∈ members, e.2.Normal

def Focus.Normal : Focus → Prop
  | .done v => v.Normal
  | _ => True

def Token.Normal : Token → Prop
  | .scalar v => v.Normal
  | _ => True

theorem Token.normal_of_read {cs rest : List Char} {t : Token}
    (h : readToken? cs = some (t, rest)) : t.Normal := by
  unfold readToken? at h
  split at h
  case h_7 =>
    obtain ⟨p, -, heq⟩ := Option.map_eq_some_iff.1 h
    cases heq
    trivial
  case h_11 =>
    obtain ⟨p, -, heq⟩ := Option.map_eq_some_iff.1 h
    cases heq
    trivial
  all_goals
    cases h
    trivial

namespace Reader

structure Normal (r : Reader) : Prop where
  focus : r.focus.Normal
  frames : ∀ frame ∈ r.frames, frame.Normal

theorem normal_start : start.Normal := ⟨trivial, by simp [start]⟩

section Step

variable {frames : List Frame} (h : ∀ frame ∈ frames, frame.Normal) {r : Reader}
include h

theorem normal_of_accept {value : Json} (hvalue : value.Normal) (hr : accept frames value = .ok r) :
    r.Normal := by
  unfold accept at hr
  split at hr
  · cases hr
    exact ⟨hvalue, h⟩
  · cases hr
    obtain ⟨hitems, hrest⟩ := List.forall_mem_cons.1 h
    exact ⟨trivial, List.forall_mem_cons.2 ⟨List.forall_mem_cons.2 ⟨hvalue, hitems⟩, hrest⟩⟩
  · cases hr
    obtain ⟨hmembers, hrest⟩ := List.forall_mem_cons.1 h
    exact ⟨trivial, List.forall_mem_cons.2 ⟨List.forall_mem_cons.2 ⟨hvalue, hmembers⟩, hrest⟩⟩
  · cases hr

theorem normal_of_enter {frame : Frame} (hframe : frame.Normal) {focus : Focus}
    (hfocus : focus.Normal) (hr : enter frames frame focus = .ok r) : r.Normal := by
  unfold enter at hr
  split at hr
  · cases hr
    exact ⟨hfocus, List.forall_mem_cons.2 ⟨hframe, h⟩⟩
  · cases hr

theorem normal_of_leave (hr : leave frames = .ok r) : r.Normal := by
  unfold leave at hr
  split at hr
  · obtain ⟨hitems, hrest⟩ := List.forall_mem_cons.1 h
    refine normal_of_accept hrest ?_ hr
    rw [normal_arr]
    exact fun v hv => hitems v (List.mem_reverse.1 hv)
  · obtain ⟨hmembers, hrest⟩ := List.forall_mem_cons.1 h
    exact normal_of_accept hrest
      (normal_object fun e he => hmembers e (List.mem_reverse.1 he)) hr
  · cases hr

theorem normal_of_readValue {t : Token} (ht : t.Normal) (hr : readValue frames t = .ok r) :
    r.Normal := by
  cases t with
  | scalar value => exact normal_of_accept h ht hr
  | text value => exact normal_of_accept h (normal_str value) hr
  | openArray =>
    have hframe : (Frame.array []).Normal := List.forall_mem_nil _
    refine normal_of_enter h hframe ?_ hr
    trivial
  | openObject =>
    have hframe : (Frame.object []).Normal := List.forall_mem_nil _
    refine normal_of_enter h hframe ?_ hr
    trivial
  | _ => cases hr

end Step

theorem Normal.of_step {r r' : Reader} (h : r.Normal) {t : Token} (ht : t.Normal)
    (hr : r.step t = .ok r') : r'.Normal := by
  have hframes := h.frames
  -- a token is a value, closes a container, or only changes what may come next
  unfold step at hr
  split at hr
  · exact normal_of_readValue hframes ht hr
  · exact normal_of_leave hframes hr
  · exact normal_of_readValue hframes ht hr
  · cases hr
    exact ⟨trivial, hframes⟩
  · cases hr
    exact ⟨trivial, hframes⟩
  · exact normal_of_leave hframes hr
  · split at hr
    · rename_i hopen
      cases hr
      rw [hopen] at hframes
      obtain ⟨hmembers, hrest⟩ := List.forall_mem_cons.1 hframes
      exact ⟨trivial, List.forall_mem_cons.2 ⟨hmembers, hrest⟩⟩
    · cases hr
  · split at hr
    · cases hr
      exact ⟨trivial, hframes⟩
    · cases hr
      exact ⟨trivial, hframes⟩
    · cases hr
  · split at hr
    · exact normal_of_leave hframes hr
    · cases hr
  · split at hr
    · exact normal_of_leave hframes hr
    · cases hr
  · cases hr

theorem normal_of_run {r : Reader} (h : r.Normal) {cs : List Char} {v : Json}
    (hv : r.run cs = .ok v) : v.Normal := by
  fun_induction run r cs with
  | case1 r value hfocus =>
    cases hv
    have hvalue := h.focus
    rw [hfocus] at hvalue
    exact hvalue
  | case2 => cases hv
  | case3 r c rest hc ih => exact ih h hv
  | case4 => cases hv
  | case5 => cases hv
  | case6 r c rest hc token after htoken _ r' hstep ih =>
    exact ih (h.of_step (Token.normal_of_read htoken) hstep) hv

end Reader

theorem normal_of_parse {text : String} {v : Json} (h : parse text = .ok v) : v.Normal := by
  unfold parse parseChars at h
  split at h
  · rename_i hrun
    cases h
    exact Reader.normal_of_run Reader.normal_start hrun
  · cases h

theorem normal_of_parseBytes {bytes : ByteArray} {v : Json} (h : parseBytes bytes = .ok v) :
    v.Normal := by
  unfold parseBytes at h
  split at h
  · exact normal_of_parse h
  · cases h

variable {α : Type} {read : Json → Except Mismatch α}

def Decoded {ε : Type} (read : Json → Except ε α) (a : α) : Prop := ∃ v, v.Normal ∧ read v = .ok a

/-- In normal form, and not what stands for an option that is left out. -/
def Solid (v : Json) : Prop := v ≠ .null ∧ v.Normal

theorem decoded_ok_iff {ε : Type} (v : Json) :
    Decoded (Except.ok : Json → Except ε Json) v ↔ v.Normal := by
  constructor
  · rintro ⟨w, hw, h⟩
    cases h
    exact hw
  · exact fun h => ⟨v, h, rfl⟩

theorem readOption_eq_ok_some_iff (v : Json) (a : α) :
    readOption read v = .ok (some a) ↔ v ≠ .null ∧ read v = .ok a := by
  cases v <;> simp [readOption, Outcome.map_eq_ok_iff]

theorem solid_of_readOption {v : Json} {x : Option Json} (hv : v.Normal)
    (h : readOption .ok v = .ok x) : ∀ w ∈ x, w.Solid := by
  rintro w rfl
  obtain ⟨hnull, hread⟩ := (readOption_eq_ok_some_iff v w).1 h
  cases hread
  exact ⟨hnull, hv⟩

theorem decoded_of_readOption {v : Json} {x : Option α} (hv : v.Normal)
    (h : readOption read v = .ok x) : ∀ a ∈ x, Decoded read a := by
  rintro a rfl
  exact ⟨v, hv, ((readOption_eq_ok_some_iff v a).1 h).2⟩

theorem decoded_of_readList {v : Json} {as : List α} (hv : v.Normal)
    (h : readList read v = .ok as) : ∀ a ∈ as, Decoded read a := by
  cases v with
  | arr items =>
    rw [normal_arr] at hv
    intro a ha
    obtain ⟨item, hitem, hok⟩ := Outcome.exists_of_mem_mapM h ha
    exact ⟨item, hv item hitem, hok⟩
  | _ => cases h

theorem decoded_of_readOption_readList {v : Json} {x : Option (List α)} (hv : v.Normal)
    (h : readOption (readList read) v = .ok x) : ∀ as ∈ x, ∀ a ∈ as, Decoded read a := by
  intro as has
  obtain ⟨list, hlist, hread⟩ := decoded_of_readOption hv h as has
  exact decoded_of_readList hlist hread

theorem decoded_of_readMap {v : Json} {m : KeyMap α} (hv : v.Normal)
    (h : readMap read v = .ok m) : ∀ e ∈ m.entries, Decoded read e.2 := by
  cases v with
  | obj members =>
    obtain ⟨es, hes, rfl⟩ := (Outcome.map_eq_ok_iff _ _ _).1 h
    intro e he
    obtain ⟨m, hm, hok⟩ := Outcome.exists_of_mem_mapM hes (KeyMap.mem_of_mem_ofList he)
    obtain ⟨a, ha, rfl⟩ := (Outcome.map_eq_ok_iff _ _ _).1 hok
    exact ⟨m.2, ((normal_obj members).1 hv).2 m hm, ha⟩
  | _ => cases h

variable {write : α → Json}

theorem readList_normalize {as : List α} (h : ∀ a ∈ as, read (write a).normalize = .ok a) :
    readList read (arr (as.map write)).normalize = .ok as := by
  rw [normalize, normalizeItems_eq, List.map_map]
  refine (Outcome.mapM_eq_ok_iff read _ as).2 ?_
  rw [List.map_map]
  exact List.map_congr_left h

theorem readMap_normalize {m : KeyMap α}
    (h : ∀ e ∈ m.entries, read (write e.2).normalize = .ok e.2) :
    readMap read (obj (m.entries.map fun e => (e.1, write e.2))).normalize = .ok m := by
  rw [normalize, normalizeMembers_eq, List.map_map]
  have hentries := KeyMap.entries_ofList_map (fun a => (write a).normalize) m.entries
  rw [KeyMap.ofList_entries] at hentries
  have hread : (m.entries.map fun e => (e.1, (write e.2).normalize)).mapM (readMember read) =
      .ok m.entries := by
    refine (Outcome.mapM_eq_ok_iff _ _ _).2 ?_
    rw [List.map_map]
    refine List.map_congr_left fun e he => ?_
    rw [Function.comp, readMember, h e he]
    rfl
  refine (Outcome.map_eq_ok_iff _ _ _).2 ⟨m.entries, ?_, KeyMap.ofList_entries m⟩
  rw [← hread, ← hentries]
  rfl

theorem readList_of_normal {items : List Json} (h : ∀ v ∈ items, v.Normal) :
    readList .ok (arr items).normalize = .ok items := by
  have hitems : readList .ok (arr (items.map id)).normalize = .ok items :=
    readList_normalize fun v hv => congrArg Except.ok (normalize_eq_self (h v hv))
  rwa [List.map_id] at hitems

theorem readMap_of_normal {m : KeyMap Json} (h : ∀ e ∈ m.entries, e.2.Normal) :
    readMap .ok (ofMap m).normalize = .ok m := by
  have hentries : readMap .ok (obj (m.entries.map fun e => (e.1, id e.2))).normalize = .ok m :=
    readMap_normalize fun e he => congrArg Except.ok (normalize_eq_self (h e he))
  rwa [show (m.entries.map fun e => (e.1, id e.2)) = m.entries from List.map_id _] at hentries

end RuleStack.Json
