import Stepwise.Proofs.Json.Numeral

namespace Stepwise

namespace Document

variable {s rest : List Char} {c : Char}

/-- How a character of a string is read again: control characters without a short form are units of
UTF-16. -/
def StringPart.of (c : Char) : StringPart :=
  if c.toNat < 0x20 ∧ c.toNat ∉ [8, 9, 10, 12, 13] then .escaped c.toNat else .char c

theorem hexNumber?_of_lt {n : Nat} (hn : n < 0x20) :
    hexNumber? ['0', '0', Json.hexDigit (n / 16), Json.hexDigit (n % 16)] = some n := by
  revert n
  decide

theorem eq_ofNat_of_toNat {n : Nat} (h : c.toNat = n) : c = Char.ofNat n := by
  rw [← h, Char.ofNat_toNat]

theorem stringParts?_escapeChar (parts : List StringPart) (c : Char) (s : List Char) :
    stringParts? parts (Json.escapeChar c ++ s) = stringParts? (.of c :: parts) s := by
  unfold Json.escapeChar
  split
  next h =>
    subst h
    rfl
  next hquote =>
  split
  next h =>
    subst h
    rfl
  next hslash =>
  split
  next h =>
    obtain rfl := eq_ofNat_of_toNat h
    rfl
  next h8 =>
  split
  next h =>
    obtain rfl := eq_ofNat_of_toNat h
    rfl
  next h9 =>
  split
  next h =>
    obtain rfl := eq_ofNat_of_toNat h
    rfl
  next h10 =>
  split
  next h =>
    obtain rfl := eq_ofNat_of_toNat h
    rfl
  next h12 =>
  split
  next h =>
    obtain rfl := eq_ofNat_of_toNat h
    rfl
  next h13 =>
  split
  next h =>
    have hp : StringPart.of c = .escaped c.toNat := if_pos ⟨h, by simp [h8, h9, h10, h12, h13]⟩
    simp [stringParts?, hexNumber?_of_lt h, hp]
  next h =>
    have hp : StringPart.of c = .char c := if_neg fun hn => h hn.1
    have hn : (c == '\\') = false := by simpa using hslash
    rw [List.singleton_append, stringParts?, hp, hn]
    · simp [h]
    · exact hquote
    · simp [hslash]
    · simp [hslash]

theorem stringParts?_quoted (parts : List StringPart) (s rest : List Char) :
    stringParts? parts (s.flatMap Json.escapeChar ++ '"' :: rest) =
      some (parts.reverse ++ s.map .of, rest) := by
  induction s generalizing parts with
  | nil => simp [stringParts?]
  | cons c s ih =>
    rw [List.flatMap_cons, List.append_assoc, stringParts?_escapeChar, ih]
    simp

theorem joinParts?_escaped (text : List Char) {code : Nat} (h : code < 0x20)
    (parts : List StringPart) :
    joinParts? text (.escaped code :: parts) = joinParts? (Char.ofNat code :: text) parts := by
  have hh : isHighSurrogate code = false := by
    unfold isHighSurrogate
    rw [decide_eq_false (by omega), Bool.false_and]
  have hl : isLowSurrogate code = false := by
    unfold isLowSurrogate
    rw [decide_eq_false (by omega), Bool.false_and]
  cases parts with
  | nil => simp [joinParts?, hh, hl]
  | cons part parts => cases part <;> simp [joinParts?, hh, hl]

theorem joinParts?_of (text : List Char) (c : Char) (parts : List StringPart) :
    joinParts? text (.of c :: parts) = joinParts? (c :: text) parts := by
  unfold StringPart.of
  split
  next h => rw [joinParts?_escaped text h.1, Char.ofNat_toNat]
  next => rw [joinParts?]

theorem joinParts?_map_of (text s : List Char) :
    joinParts? text (s.map .of) = some (String.ofList (text.reverse ++ s)) := by
  induction s generalizing text with
  | nil => simp [joinParts?]
  | cons c s ih => rw [List.map_cons, joinParts?_of, ih, List.reverse_cons, List.append_assoc,
      List.singleton_append]

theorem token?_quoted (s rest : List Char) :
    token? '"' (s.flatMap Json.escapeChar ++ '"' :: rest) =
      some (.str (some (String.ofList s)), rest) := by
  have ht : ∀ s, token? '"' s =
      (stringParts? [] s).map fun found => (.str (joinParts? [] found.1), found.2) := by
    intro s
    rfl
  rw [ht, stringParts?_quoted, Option.map_some]
  simp [joinParts?_map_of]

theorem token?_numeral {m : Numeral} (hc : c = '-' ∨ isDigit c = true)
    (h : numeral? (c :: s) = some (m, rest)) : token? c s = some (.num m.value?, rest) := by
  unfold token?
  split
  case h_11 => rw [h, Option.map_some]
  all_goals exact absurd hc (by decide)

/-- From a text and the progress made before it, to what is left of the text when some tokens are
read and the progress made by then. -/
inductive Reads : List Char → Progress → List Char → Progress → Prop
  | refl {s : List Char} {p : Progress} : Reads s p s p
  | token {c : Char} {s mid rest : List Char} {token : Token} {p q r : Progress}
      (hc : (c == ' ' || c == '\t' || c == '\n' || c == '\r') = false)
      (ht : token? c s = some (token, mid)) (hl : mid.length ≤ s.length)
      (hn : p.next? token = some q) (h : Reads mid q rest r) : Reads (c :: s) p rest r

variable {mid : List Char} {p q r : Progress}

theorem Reads.trans (h : Reads s p mid q) (h' : Reads mid q rest r) : Reads s p rest r := by
  induction h with
  | refl => exact h'
  | token hc ht hl hn _ ih => exact .token hc ht hl hn (ih h')

theorem tokensIn?_of_reads (h : Reads s p [] q) {room : Nat} (hroom : s.length ≤ room)
    (done : List Token) : ∃ tokens, tokensIn? room done s = some (done.reverse ++ tokens) ∧
      tokens.foldlM Progress.next? p = some q := by
  generalize he : ([] : List Char) = rest at h
  induction h generalizing room done with
  | refl =>
    subst he
    refine ⟨[], ?_, rfl⟩
    cases room <;> simp [tokensIn?]
  | @token c s mid rest token p q r hc ht hl hn _ ih =>
    obtain ⟨room, rfl⟩ : ∃ left, room = left + 1 := ⟨room - 1, by simp at hroom; omega⟩
    have hroom : s.length ≤ room := Nat.le_of_succ_le_succ hroom
    obtain ⟨tokens, hd, hf⟩ := ih (Nat.le_trans hl hroom) (token :: done) he
    refine ⟨token :: tokens, ?_, ?_⟩
    · rw [tokensIn?, hc, if_neg (by decide), ht]
      simpa using hd
    · rw [List.foldlM_cons, hn]
      exact hf

/-- A text that is read up to its end is the text of the document that was completed. -/
theorem parse?_of_reads {document : Document} {text : String}
    (h : Reads text.toList ⟨[], .value⟩ [] ⟨[], .nothing document⟩) :
    parse? text = some document := by
  obtain ⟨tokens, ht, hf⟩ := tokensIn?_of_reads h (Nat.le_refl _) []
  simp only [parse?, tokens?, ht, List.reverse_nil, List.nil_append, Option.bind_eq_bind,
    Option.bind_some, hf]

variable {frames : List Frame} {e : Expected} {document : Document} {t : Token}

/-- A text that is read as a document wherever a value may stand. -/
def Readable (s : List Char) (document : Document) : Prop :=
  ∀ frames rest e, (e = .value ∨ e = .firstItem) → Delimited rest →
    Reads (s ++ rest) ⟨frames, e⟩ rest (Progress.finish document frames)

theorem next?_of_start? (he : e = .value ∨ e = .firstItem)
    (h : Progress.start? frames t = some q) : Progress.next? ⟨frames, e⟩ t = some q := by
  rcases he with rfl | rfl
  · exact h
  · cases t with
    | closeArray => cases h
    | _ => exact h

/-- A text of one token that is a value. -/
theorem readable_of_token? (hc : (c == ' ' || c == '\t' || c == '\n' || c == '\r') = false)
    (ht : ∀ rest, Delimited rest → token? c (s ++ rest) = some (t, rest))
    (hs : ∀ frames, Progress.start? frames t = some (Progress.finish document frames)) :
    Readable (c :: s) document := by
  intro frames rest e he hr
  exact .token hc (ht rest hr) (by simp) (next?_of_start? he (hs frames)) .refl

theorem readable_null : Readable "null".toList .null :=
  readable_of_token? (t := .null) rfl (fun _ _ => rfl) fun _ => rfl

theorem readable_bool (value : Bool) :
    Readable (if value then "true" else "false").toList (.bool value) := by
  cases value with
  | true => exact readable_of_token? (t := .bool true) rfl (fun _ _ => rfl) fun _ => rfl
  | false => exact readable_of_token? (t := .bool false) rfl (fun _ _ => rfl) fun _ => rfl

theorem isBlank_of_numeral (hc : c = '-' ∨ isDigit c = true) :
    (c == ' ' || c == '\t' || c == '\n' || c == '\r') = false := by
  by_cases h : c = ' ' ∨ c = '\t' ∨ c = '\n' ∨ c = '\r'
  · rcases h with rfl | rfl | rfl | rfl <;> exact absurd hc (by decide)
  · simpa [not_or, and_assoc] using h

theorem readable_num {n : Number} (hn : n.InRange) : Readable n.write.toList (.num (some n)) := by
  obtain ⟨m, hm, hv, ht⟩ := exists_numeral hn
  obtain ⟨c, s, hs, hc⟩ := hm.exists_cons
  rw [ht, hs]
  refine readable_of_token? (isBlank_of_numeral hc) (fun rest hr => token?_numeral hc ?_)
    fun _ => by rw [hv]; rfl
  have hread := numeral?_text hm hr
  rwa [hs] at hread

theorem toList_quote (s : String) :
    (Json.quote s).toList = '"' :: (s.toList.flatMap Json.escapeChar ++ ['"']) := by
  rw [Json.quote, String.toList_ofList]
  rfl

theorem token?_quote (s : String) (rest : List Char) :
    token? '"' (s.toList.flatMap Json.escapeChar ++ ['"'] ++ rest) =
      some (.str (some s), rest) := by
  rw [List.append_assoc, List.singleton_append, token?_quoted, String.ofList_toList]

theorem readable_str (s : String) : Readable (Json.quote s).toList (.str (some s)) := by
  rw [toList_quote]
  exact readable_of_token? rfl (fun rest _ => token?_quote s rest) fun _ => rfl

theorem delimited_cons (hc : c = ',' ∨ c = ']' ∨ c = '\x7d') (rest : List Char) :
    Delimited (c :: rest) := by
  rintro _ ⟨⟩
  exact hc

theorem compactItems_eq_map (items : List Json) :
    Json.compactItems items = items.map Json.compact := by
  induction items with
  | nil => rfl
  | cons item rest ih => rw [Json.compactItems, ih, List.map_cons]

/-- Items between commas are read one after the other, up to the end of the array. -/
theorem reads_items {items : List Json} (hne : items ≠ [])
    (hi : ∀ item ∈ items, Readable item.compact.toList item.document) (frames : List Frame)
    (done : List Document) (he : e = .value ∨ e = .firstItem) (rest : List Char) :
    Reads ([','].intercalate (items.map fun item => item.compact.toList) ++ ']' :: rest)
      ⟨.array done :: frames, e⟩ rest
      (Progress.finish (.arr (done.reverse ++ items.map Json.document)) frames) := by
  induction items generalizing done e with
  | nil => exact absurd rfl hne
  | cons item others ih =>
    obtain ⟨hfirst, hothers⟩ := List.forall_mem_cons.mp hi
    cases others with
    | nil =>
      have hr := hfirst (.array done :: frames) (']' :: rest) e he (delimited_cons (by simp) rest)
      rw [List.map_singleton, List.intercalate_singleton]
      refine hr.trans (.token rfl rfl (Nat.le_refl _) ?_ .refl)
      simp [Progress.finish, Progress.next?]
    | cons second others =>
      have hr := ih (by simp) hothers (item.document :: done) (.inl rfl)
      have hfirst := hfirst (.array done :: frames)
        (',' :: ([','].intercalate ((second :: others).map fun item => item.compact.toList) ++
          ']' :: rest)) e he (delimited_cons (by simp) _)
      rw [List.map_cons, List.intercalate_cons_of_ne_nil (by simp), List.append_assoc,
        List.append_assoc]
      refine hfirst.trans (.token rfl rfl (Nat.le_refl _) rfl ?_)
      simpa using hr

theorem readable_arr {items : List Json}
    (hi : ∀ item ∈ items, Readable item.compact.toList item.document) :
    Readable (Json.arr items).compact.toList (Json.arr items).document := by
  intro frames rest e he hr
  have ht : (Json.arr items).compact.toList =
      '[' :: ([','].intercalate (items.map fun item => item.compact.toList) ++ [']']) := by
    simp [Json.compact, compactItems_eq_map, String.toList_intercalate, Function.comp_def]
  rw [ht]
  refine .token rfl rfl (Nat.le_refl _) (next?_of_start? he rfl) ?_
  cases items with
  | nil => exact .token rfl rfl (Nat.le_refl _) rfl .refl
  | cons item others =>
    have hr := reads_items (by simp) hi frames [] (.inr rfl) rest
    rw [Json.document, Json.documents_eq_map]
    simpa using hr

def fieldText (e : String × Json) : List Char :=
  (Json.quote e.1).toList ++ ':' :: e.2.compact.toList

theorem compactFields_eq_map (fields : List (String × Json)) :
    (Json.compactFields fields).map String.toList = fields.map fieldText := by
  induction fields with
  | nil => rfl
  | cons e rest ih =>
    rw [Json.compactFields, List.map_cons, List.map_cons, ih]
    simp [fieldText]

/-- A field is read up to the comma or brace behind it. -/
theorem reads_field {field : String × Json}
    (hf : Readable field.2.compact.toList field.2.document) (frames : List Frame)
    (done : List (Option String × Document)) (last : Option String)
    (he : e = .firstKey ∨ e = .key) (hr : Delimited rest) :
    Reads (fieldText field ++ rest) ⟨.object done last :: frames, e⟩ rest
      ⟨.object ((some field.1, field.2.document) :: done) (some field.1) :: frames,
        .separator⟩ := by
  have hvalue := hf (.object done (some field.1) :: frames) rest .value (.inl rfl) hr
  have hkey := token?_quote field.1 (':' :: (field.2.compact.toList ++ rest))
  have hn : Progress.next? ⟨.object done last :: frames, e⟩ (.str (some field.1)) =
      some ⟨.object done (some field.1) :: frames, .colon⟩ := by
    rcases he with rfl | rfl <;> rfl
  have hs : fieldText field ++ rest = '"' :: (field.1.toList.flatMap Json.escapeChar ++ ['"'] ++
      ':' :: (field.2.compact.toList ++ rest)) := by
    simp [fieldText, toList_quote]
  rw [hs]
  exact .token rfl hkey (by simp; omega) hn (.token rfl rfl (Nat.le_refl _) rfl hvalue)

/-- Fields between commas are read one after the other, up to the end of the object. -/
theorem reads_fields {fields : List (String × Json)} (hne : fields ≠ [])
    (hf : ∀ field ∈ fields, Readable field.2.compact.toList field.2.document)
    (frames : List Frame) (done : List (Option String × Document)) (last : Option String)
    (he : e = .firstKey ∨ e = .key) (rest : List Char) :
    Reads ([','].intercalate (fields.map fieldText) ++ '\x7d' :: rest)
      ⟨.object done last :: frames, e⟩ rest
      (Progress.finish (.obj (done.reverse ++ fields.map fun e => (some e.1, e.2.document)))
        frames) := by
  induction fields generalizing done last e with
  | nil => exact absurd rfl hne
  | cons field others ih =>
    obtain ⟨hfirst, hothers⟩ := List.forall_mem_cons.mp hf
    cases others with
    | nil =>
      have hr := reads_field hfirst frames done last he
        (delimited_cons (c := '\x7d') (by simp) rest)
      rw [List.map_singleton, List.intercalate_singleton]
      refine hr.trans (.token rfl rfl (Nat.le_refl _) ?_ .refl)
      simp [Progress.next?]
    | cons second others =>
      have hr := ih (by simp) hothers ((some field.1, field.2.document) :: done) (some field.1)
        (.inr rfl)
      have hfirst := reads_field hfirst frames done last he (delimited_cons (c := ',') (by simp)
        ([','].intercalate ((second :: others).map fieldText) ++ '\x7d' :: rest))
      rw [List.map_cons, List.intercalate_cons_of_ne_nil (by simp), List.append_assoc,
        List.append_assoc]
      refine hfirst.trans (.token rfl rfl (Nat.le_refl _) rfl ?_)
      simpa using hr

theorem readable_obj {fields : List (String × Json)}
    (hf : ∀ field ∈ fields, Readable field.2.compact.toList field.2.document) :
    Readable (Json.obj fields).compact.toList (Json.obj fields).document := by
  intro frames rest e he hr
  have ht : (Json.obj fields).compact.toList =
      '\x7b' :: ([','].intercalate (fields.map fieldText) ++ ['\x7d']) := by
    simp [Json.compact, ← compactFields_eq_map, String.toList_intercalate]
  rw [ht]
  refine .token rfl rfl (Nat.le_refl _) (next?_of_start? he rfl) ?_
  cases fields with
  | nil => exact .token rfl rfl (Nat.le_refl _) rfl .refl
  | cons field others =>
    have hr := reads_fields (by simp) hf frames [] none (.inl rfl) rest
    rw [Json.document, Json.documentFields_eq_map]
    simpa using hr

theorem readable_compact {j : Json} (hj : j.Legible) : Readable j.compact.toList j.document := by
  induction j using Json.parts_induction with
  | null => exact readable_null
  | bool value => exact readable_bool value
  | num n => exact readable_num hj
  | str s => exact readable_str s
  | arr items ih => exact readable_arr fun item hm => ih item hm (Json.legible_arr.mp hj item hm)
  | obj fields ih => exact readable_obj fun e hm => ih e hm ((Json.legible_obj.mp hj).2 e hm)

/-- The text of a value is read as its document. -/
theorem parse?_compact {j : Json} (hj : j.Legible) : parse? j.compact = some j.document := by
  have hr := readable_compact hj [] [] .value (.inl rfl) (by simp [Delimited])
  rw [List.append_nil] at hr
  exact parse?_of_reads hr

end Document

end Stepwise
