import Stepwise.Proofs.Json.Portable
import Stepwise.Proofs.Reading

namespace Stepwise

namespace Document

mutual

/-- Every integer of the document has 64 bits. -/
def InRange : Document → Prop
  | .num value => ∀ n ∈ value, n.InRange
  | .arr items => InRangeItems items
  | .obj fields => InRangeFields fields
  | _ => True

def InRangeItems : List Document → Prop
  | [] => True
  | item :: rest => item.InRange ∧ InRangeItems rest

def InRangeFields : List (Option String × Document) → Prop
  | [] => True
  | (_, item) :: rest => item.InRange ∧ InRangeFields rest

end

theorem inRangeItems_iff {items : List Document} :
    InRangeItems items ↔ ∀ item ∈ items, item.InRange := by
  induction items with
  | nil => simp [InRangeItems]
  | cons item rest ih => simp [InRangeItems, ih]

theorem inRangeFields_iff {fields : List (Option String × Document)} :
    InRangeFields fields ↔ ∀ e ∈ fields, e.2.InRange := by
  induction fields with
  | nil => simp [InRangeFields]
  | cons e rest ih => simp [InRangeFields, ih]

theorem inRange_arr {items : List Document} :
    (arr items).InRange ↔ ∀ item ∈ items, item.InRange := inRangeItems_iff

theorem inRange_obj {fields : List (Option String × Document)} :
    (obj fields).InRange ↔ ∀ e ∈ fields, e.2.InRange := inRangeFields_iff

theorem Numeral.inRange_value? (n : Numeral) : ∀ number ∈ n.value?, number.InRange := by
  intro number hn
  have hfloat : ∀ (found : Option Double) number, found.map Number.float = some number →
      number.InRange := by
    intro found number h
    obtain ⟨d, _, rfl⟩ := Option.map_eq_some_iff.mp h
    trivial
  unfold value? at hn
  dsimp only at hn
  split at hn
  next => exact hfloat _ _ hn
  next =>
    split at hn
    next =>
      split at hn
      next hb =>
        cases hn
        unfold Number.InRange Number.Fits Text.Numeral.wordBound
        omega
      next => exact hfloat _ _ hn
    next =>
      split at hn
      next hb =>
        cases hn
        unfold Number.InRange Number.Fits
        omega
      next => exact hfloat _ _ hn

def Token.InRange : Token → Prop
  | .num value => ∀ n ∈ value, n.InRange
  | _ => True

variable {c : Char} {s rest : List Char} {token : Token} {tokens done : List Token} {room : Nat}

theorem inRange_token? (h : token? c s = some (token, rest)) : token.InRange := by
  unfold token? at h
  split at h
  case h_10 =>
    obtain ⟨⟨parts, after⟩, _, he⟩ := Option.map_eq_some_iff.mp h
    cases he
    trivial
  case h_11 =>
    obtain ⟨⟨n, after⟩, _, he⟩ := Option.map_eq_some_iff.mp h
    cases he
    exact n.inRange_value?
  all_goals
    cases h
    trivial

theorem inRange_tokensIn? (hd : ∀ t ∈ done, t.InRange) (h : tokensIn? room done s = some tokens) :
    ∀ t ∈ tokens, t.InRange := by
  induction room generalizing done s with
  | zero =>
    cases s with
    | nil =>
      cases h
      simpa using hd
    | cons c rest => cases h
  | succ room ih =>
    cases s with
    | nil =>
      cases h
      simpa using hd
    | cons c rest =>
      rw [tokensIn?] at h
      split at h
      next => exact ih hd h
      next =>
        split at h
        next token rest ht => exact ih (List.forall_mem_cons.mpr ⟨inRange_token? ht, hd⟩) h
        next => cases h

def Frame.InRange : Frame → Prop
  | .array done => ∀ item ∈ done, item.InRange
  | .object done _ => ∀ e ∈ done, e.2.InRange

def Expected.InRange : Expected → Prop
  | .nothing result => result.InRange
  | _ => True

structure Progress.InRange (p : Progress) : Prop where
  frames : ∀ frame ∈ p.frames, frame.InRange
  expected : p.expected.InRange

variable {frames : List Frame} {value : Document} {p next : Progress}

theorem Progress.inRange_finish (hv : value.InRange) (hf : ∀ frame ∈ frames, frame.InRange) :
    (finish value frames).InRange := by
  unfold finish
  split
  next => exact ⟨hf, hv⟩
  next =>
    obtain ⟨hd, hr⟩ := List.forall_mem_cons.mp hf
    exact ⟨List.forall_mem_cons.mpr ⟨List.forall_mem_cons.mpr ⟨hv, hd⟩, hr⟩, trivial⟩
  next =>
    obtain ⟨hd, hr⟩ := List.forall_mem_cons.mp hf
    exact ⟨List.forall_mem_cons.mpr ⟨List.forall_mem_cons.mpr ⟨hv, hd⟩, hr⟩, trivial⟩

theorem Progress.inRange_start? (ht : token.InRange) (hf : ∀ frame ∈ frames, frame.InRange)
    (h : start? frames token = some next) : next.InRange := by
  unfold start? at h
  split at h
  next =>
    cases h
    exact ⟨List.forall_mem_cons.mpr ⟨List.forall_mem_nil _, hf⟩, trivial⟩
  next =>
    cases h
    exact ⟨List.forall_mem_cons.mpr ⟨List.forall_mem_nil _, hf⟩, trivial⟩
  next =>
    cases h
    exact inRange_finish trivial hf
  next =>
    cases h
    exact inRange_finish trivial hf
  next =>
    cases h
    exact inRange_finish ht hf
  next =>
    cases h
    exact inRange_finish trivial hf
  next => cases h

theorem Progress.inRange_takeKey? {key : Option String} (hf : ∀ frame ∈ frames, frame.InRange)
    (h : takeKey? frames key = some next) : next.InRange := by
  unfold takeKey? at h
  split at h
  next =>
    cases h
    obtain ⟨hd, hr⟩ := List.forall_mem_cons.mp hf
    exact ⟨List.forall_mem_cons.mpr ⟨hd, hr⟩, trivial⟩
  next => cases h

theorem Progress.inRange_next? (hp : p.InRange) (ht : token.InRange)
    (h : p.next? token = some next) : next.InRange := by
  have hf := hp.frames
  unfold next? at h
  split at h
  next he =>
    rw [he] at hf
    cases h
    exact inRange_finish (inRange_arr.mpr (List.forall_mem_nil _)) (List.forall_mem_cons.mp hf).2
  next => exact inRange_start? ht hf h
  next => exact inRange_start? ht hf h
  next he =>
    rw [he] at hf
    cases h
    exact inRange_finish (inRange_obj.mpr (List.forall_mem_nil _)) (List.forall_mem_cons.mp hf).2
  next => exact inRange_takeKey? hf h
  next => exact inRange_takeKey? hf h
  next =>
    cases h
    exact ⟨hf, trivial⟩
  next he =>
    rw [he] at hf
    cases h
    exact ⟨hf, trivial⟩
  next he =>
    rw [he] at hf
    cases h
    exact ⟨hf, trivial⟩
  next he =>
    rw [he] at hf
    cases h
    obtain ⟨hd, hr⟩ := List.forall_mem_cons.mp hf
    exact inRange_finish (inRange_arr.mpr fun item hm => hd item (List.mem_reverse.mp hm)) hr
  next he =>
    rw [he] at hf
    cases h
    obtain ⟨hd, hr⟩ := List.forall_mem_cons.mp hf
    exact inRange_finish (inRange_obj.mpr fun e hm => hd e (List.mem_reverse.mp hm)) hr
  next => cases h

theorem Progress.inRange_foldlM {tokens : List Token} (hp : p.InRange)
    (ht : ∀ token ∈ tokens, token.InRange) (h : tokens.foldlM next? p = some next) :
    next.InRange := by
  induction tokens generalizing p with
  | nil =>
    cases h
    exact hp
  | cons token rest ih =>
    obtain ⟨hf, hr⟩ := List.forall_mem_cons.mp ht
    simp only [List.foldlM_cons, Option.bind_eq_bind, Option.bind_eq_some_iff] at h
    obtain ⟨mid, hm, h⟩ := h
    exact ih (inRange_next? hp hf hm) hr h

theorem inRange_of_parse? {text : String} {document : Document}
    (h : parse? text = some document) : document.InRange := by
  simp only [parse?, Option.bind_eq_bind, Option.bind_eq_some_iff] at h
  obtain ⟨tokens, ht, last, hl, h⟩ := h
  have hs : (Progress.mk [] .value).InRange := ⟨List.forall_mem_nil _, trivial⟩
  have hp := Progress.inRange_foldlM hs (inRange_tokensIn? (List.forall_mem_nil _) ht) hl
  split at h
  next he =>
    cases h
    have hr := hp.expected
    rwa [he] at hr
  next => cases h

mutual

theorem portable_of_toJson? : ∀ (document : Document) {room : Nat} {j : Json}, document.InRange →
    document.toJson? room = some j → j.Portable
  | .null, _, _, _, h => by
    cases h
    trivial
  | .bool _, _, _, _, h => by
    cases h
    trivial
  | .num value, _, _, hd, h => by
    obtain ⟨n, hn, rfl⟩ := Option.map_eq_some_iff.mp h
    exact hd n hn
  | .str value, _, _, _, h => by
    obtain ⟨s, _, rfl⟩ := Option.map_eq_some_iff.mp h
    trivial
  | .arr items, _, _, hd, h => by
    obtain ⟨_, h⟩ := Option.ite_none_left_eq_some.mp h
    obtain ⟨values, hv, rfl⟩ := Option.map_eq_some_iff.mp h
    exact Json.portable_arr.mpr (portable_of_itemsToJson? items hd hv)
  | .obj fields, _, _, hd, h => by
    obtain ⟨_, h⟩ := Option.ite_none_left_eq_some.mp h
    obtain ⟨values, hv, rfl⟩ := Option.map_eq_some_iff.mp h
    exact Json.portable_record (portable_of_fieldsToJson? fields hd hv)

theorem portable_of_itemsToJson? : ∀ (items : List Document) {room : Nat} {values : List Json},
    InRangeItems items → itemsToJson? room items = some values → ∀ j ∈ values, j.Portable
  | [], _, _, _, h => by
    cases h
    exact List.forall_mem_nil _
  | item :: rest, _, _, hd, h => by
    simp only [itemsToJson?, Option.bind_eq_bind, Option.bind_eq_some_iff] at h
    obtain ⟨value, hv, others, ho, h⟩ := h
    cases h
    exact List.forall_mem_cons.mpr
      ⟨portable_of_toJson? item hd.1 hv, portable_of_itemsToJson? rest hd.2 ho⟩

theorem portable_of_fieldsToJson? : ∀ (fields : List (Option String × Document)) {room : Nat}
    {values : List (String × Json)}, InRangeFields fields →
      fieldsToJson? room fields = some values → ∀ e ∈ values, e.2.Portable
  | [], _, _, _, h => by
    cases h
    exact List.forall_mem_nil _
  | (_, item) :: rest, _, _, hd, h => by
    simp only [fieldsToJson?, Option.bind_eq_bind, Option.bind_eq_some_iff] at h
    obtain ⟨key, _, value, hv, others, ho, h⟩ := h
    cases h
    exact List.forall_mem_cons.mpr
      ⟨portable_of_toJson? item hd.1 hv, portable_of_fieldsToJson? rest hd.2 ho⟩

end

end Document

/-- The value of a text is one that a text gives back. -/
theorem Json.portable_of_parse? {text : String} {j : Json} (h : parse? text = some j) :
    j.Portable := by
  obtain ⟨document, hd, hj⟩ := Option.bind_eq_some_iff.mp h
  exact document.portable_of_toJson? (Document.inRange_of_parse? hd) hj

/-- The nodes with a property answer with values that a text gives back. -/
structure Source.Carries {α : Type} (S : Source α) (P : α → Prop) : Prop extends S.Inherited P where
  value {node : α} {v : Json} : P node → S.value? node = some v → v.Portable

theorem Source.Carries.object {α : Type} {S : Source α} {P : α → Prop} {node : α}
    {map : Entries Json} (hc : S.Carries P) (hn : P node) (h : S.object? node = some map) :
    (Json.obj map).Portable := by
  refine Json.portable_obj.mpr ⟨sorted_of_map? h, fun e he => ?_⟩
  obtain ⟨fields, hf, field, hm, hr⟩ := exists_of_mem_map? h he
  exact hc.value (hc.fields hn hf field hm) hr

theorem Document.Node.source_carries : source.Carries fun n => n.document.InRange where
  items {n items} hn h := by
    obtain ⟨room, document⟩ := n
    cases document with
    | arr found =>
      obtain ⟨_, h⟩ := Option.ite_none_left_eq_some.mp h
      cases h
      intro item hm
      obtain ⟨part, hp, rfl⟩ := List.mem_map.mp hm
      exact inRange_arr.mp hn part hp
    | _ => cases h
  fields {n fields} hn h := by
    obtain ⟨room, document⟩ := n
    cases document with
    | obj found =>
      obtain ⟨_, h⟩ := Option.ite_none_left_eq_some.mp h
      intro e hm
      obtain ⟨part, hp, he⟩ := Source.of_mem_mapM h hm
      obtain ⟨key, _, rfl⟩ := Option.map_eq_some_iff.mp he
      exact inRange_obj.mp hn part hp
    | _ => cases h
  value hn h := portable_of_toJson? _ hn h

end Stepwise
