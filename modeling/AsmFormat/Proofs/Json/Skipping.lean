import AsmFormat.Proofs.Json.Scalars

/-!
# Passing over values

`skipValue` works down a list of open brackets and has no function for one value inside another. The
statement that goes through by induction on the grammar is therefore about the whole run: in front
of a value, inside any brackets, the run comes after a number of rounds to the place behind the
value, inside the same brackets (`Skips`). The rounds are at most as many as the value has bytes, so
the fuel suffices, and every value is passed over whatever its depth (`skipValue_append`).
-/

set_option autoImplicit false

namespace AsmFormat.Json

/-! ## Rounds of a run -/

/-- The run behind a round that led to the given place. -/
def resume (fuel : Nat) : Except Fault Next → Except Fault Bytes
  | .error fault => .error fault
  | .ok (.finished rest) => .ok rest
  | .ok (.value brackets rest) => skipFrom fuel brackets rest

theorem skipFrom_succ (fuel : Nat) (brackets : List Bracket) (bs : Bytes) :
    skipFrom (fuel + 1) brackets bs = resume fuel (skipStart brackets bs) := by
  rw [skipFrom.eq_def]
  dsimp only
  split <;> next h => rw [h]; rfl

/-- In front of the text, a run takes `rounds` rounds to the place behind it. -/
def Skips (rounds : Nat) (v : Bytes) : Prop :=
  ∀ fuel brackets w rest, IsBlanks w → Ends rest →
    skipFrom (fuel + rounds) brackets (w ++ (v ++ rest)) = resume fuel (afterValue brackets rest)

/-! ## What ends a number -/

theorem ends_of_isBlank {b : UInt8} (h : Byte.isBlank b = true) (bs : Bytes) : Ends (b :: bs) := by
  rintro c ⟨⟩
  simp only [Byte.isBlank, Bool.or_eq_true, beq_iff_eq] at h
  rcases h with ((rfl | rfl) | rfl) | rfl <;> decide

theorem ends_append {w : Bytes} (hw : IsBlanks w) {bs : Bytes} (hbs : Ends bs) : Ends (w ++ bs) := by
  cases w with
  | nil => exact hbs
  | cons b w => exact ends_of_isBlank (hw b List.mem_cons_self) (w ++ bs)

theorem ends_comma (bs : Bytes) : Ends (Byte.comma :: bs) := by
  rintro c ⟨⟩
  decide

theorem ends_close (bracket : Bracket) (bs : Bytes) : Ends (bracket.close :: bs) := by
  rintro c ⟨⟩
  cases bracket <;> decide

/-! ## Scalars -/

theorem readLetters_append (letters rest : Bytes) :
    readLetters letters (letters ++ rest) = .ok rest := by
  induction letters with
  | nil => rfl
  | cons letter letters ih => rw [List.cons_append, readLetters, if_pos rfl, ih]

theorem skips_scalar {b : UInt8} {t : Bytes} (hblank : Byte.isBlank b = false)
    (hbracket : Bracket.ofByte? b = none)
    (h : ∀ rest, Ends rest → skipScalar b (t ++ rest) = .ok rest) : Skips 1 (b :: t) := by
  intro fuel brackets w rest hw hrest
  rw [skipFrom_succ, skipStart, skipBlanks_append hw, List.cons_append, skipBlanks_cons hblank]
  dsimp only
  rw [hbracket]
  dsimp only
  rw [h rest hrest]

theorem skips_literal {first : UInt8} {letters : Bytes} (hblank : Byte.isBlank first = false)
    (hbracket : Bracket.ofByte? first = none)
    (hread : ∀ bs, skipScalar first bs = readLetters letters bs) : Skips 1 (first :: letters) := by
  apply skips_scalar hblank hbracket
  intro rest _
  rw [hread, readLetters_append]

theorem exists_cons_of_isUnsigned {t : Bytes} (h : IsUnsigned t) :
    ∃ b u, t = b :: u ∧ Byte.isDigit b = true := by
  obtain ⟨i, f, e, hi, -, -, rfl⟩ := h
  cases hi with
  | zero => exact ⟨Byte.zero, f ++ e, rfl, rfl⟩
  | @digits b ds hb _ _ => exact ⟨b, ds ++ (f ++ e), rfl, hb⟩

theorem ofByte?_of_isDigit {b : UInt8} (h : Byte.isDigit b = true) : Bracket.ofByte? b = none := by
  rw [Bracket.ofByte?, if_neg (Byte.ne_of_isDigit h rfl), if_neg (Byte.ne_of_isDigit h rfl)]

theorem skips_number {t : Bytes} (h : IsNumber t) : Skips 1 t := by
  cases h with
  | unsigned ht =>
    obtain ⟨b, u, rfl, hb⟩ := exists_cons_of_isUnsigned ht
    apply skips_scalar (Byte.isBlank_of_isDigit hb) (ofByte?_of_isDigit hb)
    intro rest hrest
    rw [skipScalar, if_neg (by simp [Byte.opensLiteral_of_isDigit hb]),
      if_neg (Byte.ne_of_isDigit hb rfl), if_pos hb, ← List.cons_append, skipNumber_append ht hrest]
  | negative ht =>
    apply skips_scalar rfl rfl
    intro rest hrest
    exact skipNumber_append ht hrest

theorem skips_string {t : Bytes} (h : IsStringBody t) :
    Skips 1 (Byte.quote :: (t ++ [Byte.quote])) := by
  apply skips_scalar rfl rfl
  intro rest _
  rw [List.append_assoc]
  exact skipString_body h rest

/-! ## First bytes -/

/-- The bytes that open a value other than `true`, `false` and the numbers. -/
def openers : List UInt8 :=
  [Byte.letterN, Byte.quote, Byte.openList, Byte.openObject]

theorem forall_mem_openers {P : UInt8 → Prop} (hnull : P Byte.letterN) (hstring : P Byte.quote)
    (hlist : P Byte.openList) (hobject : P Byte.openObject) : ∀ b ∈ openers, P b := by
  rw [openers, List.forall_mem_cons, List.forall_mem_cons, List.forall_mem_cons,
    List.forall_mem_singleton]
  exact ⟨hnull, hstring, hlist, hobject⟩

/-- Of the values, only `true`, `false` and numbers do not open with one of the `openers`. -/
theorem opens_of_isValue {v : Bytes} (h : IsValue v) :
    IsNumber v ∨ v = Text.utf8 "true".toList ∨ v = Text.utf8 "false".toList ∨
      ∃ b ∈ openers, ∃ t, v = b :: t := by
  have hopens : ∀ b t, b ∈ openers → b :: t = v → IsNumber v ∨ v = Text.utf8 "true".toList ∨
      v = Text.utf8 "false".toList ∨ ∃ b ∈ openers, ∃ t, v = b :: t :=
    fun b t hb hv => .inr (.inr (.inr ⟨b, hb, t, hv.symm⟩))
  cases h with
  | null => exact hopens Byte.letterN _ (by decide) rfl
  | true => exact .inr (.inl rfl)
  | false => exact .inr (.inr (.inl rfl))
  | number h => exact .inl h
  | string ht => exact hopens Byte.quote _ (by decide) rfl
  | empty bracket _ => exact hopens bracket.opener _ (by cases bracket <;> decide) rfl
  | elements bracket _ _ => exact hopens bracket.opener _ (by cases bracket <;> decide) rfl

theorem exists_cons_of_isNumber {t : Bytes} (h : IsNumber t) :
    ∃ b u, t = b :: u ∧ (Byte.isDigit b = true ∨ b = Byte.minus) := by
  cases h with
  | unsigned ht =>
    obtain ⟨b, u, rfl, hb⟩ := exists_cons_of_isUnsigned ht
    exact ⟨b, u, rfl, .inl hb⟩
  | @negative u ht => exact ⟨Byte.minus, u, rfl, .inr rfl⟩

/-- A value opens with a byte that is neither a blank nor the end of a list or an object. -/
theorem exists_cons_of_isValue {v : Bytes} (h : IsValue v) :
    ∃ b t, v = b :: t ∧ Byte.isBlank b = false ∧ ∀ bracket : Bracket, b ≠ bracket.close := by
  rcases opens_of_isValue h with hnumber | rfl | rfl | ⟨b, hb, t, rfl⟩
  · obtain ⟨b, t, rfl, hb | rfl⟩ := exists_cons_of_isNumber hnumber
    · refine ⟨b, t, rfl, Byte.isBlank_of_isDigit hb, fun bracket => ?_⟩
      exact Byte.ne_of_isDigit hb (by cases bracket <;> rfl)
    · exact ⟨Byte.minus, t, rfl, rfl, by rintro (_ | _) <;> decide⟩
  · exact ⟨Byte.letterT, _, rfl, rfl, by rintro (_ | _) <;> decide⟩
  · exact ⟨Byte.letterF, _, rfl, rfl, by rintro (_ | _) <;> decide⟩
  · have hblank : ∀ b ∈ openers, Byte.isBlank b = false := forall_mem_openers rfl rfl rfl rfl
    have hclose : ∀ bracket : Bracket, ∀ b ∈ openers, b ≠ bracket.close := by
      rintro (_ | _)
      · exact forall_mem_openers (by decide) (by decide) (by decide) (by decide)
      · exact forall_mem_openers (by decide) (by decide) (by decide) (by decide)
    exact ⟨b, t, rfl, hblank b hb, fun bracket => hclose bracket b hb⟩

/-! ## Brackets -/

theorem ofByte?_opener (bracket : Bracket) : Bracket.ofByte? bracket.opener = some bracket := by
  cases bracket <;> decide

theorem isBlank_opener (bracket : Bracket) : Byte.isBlank bracket.opener = false := by
  cases bracket <;> decide

theorem isBlank_close (bracket : Bracket) : Byte.isBlank bracket.close = false := by
  cases bracket <;> decide

theorem close_ne_comma (bracket : Bracket) : bracket.close ≠ Byte.comma := by
  cases bracket <;> decide

theorem skipFrom_open (bracket : Bracket) (fuel : Nat) (brackets : List Bracket) {w : Bytes}
    (hw : IsBlanks w) (bs : Bytes) :
    skipFrom (fuel + 1) brackets (w ++ (bracket.opener :: bs)) =
      resume fuel (afterOpen bracket brackets bs) := by
  rw [skipFrom_succ, skipStart, skipBlanks_append hw, skipBlanks_cons (isBlank_opener bracket)]
  dsimp only
  rw [ofByte?_opener]

theorem afterValue_close (bracket : Bracket) (outer : List Bracket) {w : Bytes} (hw : IsBlanks w)
    (rest : Bytes) :
    afterValue (bracket :: outer) (w ++ bracket.close :: rest) = afterValue outer rest := by
  rw [afterValue, skipBlanks_append hw, skipBlanks_cons (isBlank_close bracket)]
  dsimp only
  rw [if_neg (close_ne_comma bracket), if_pos rfl]

theorem afterOpen_close (bracket : Bracket) (outer : List Bracket) {w : Bytes} (hw : IsBlanks w)
    (rest : Bytes) : afterOpen bracket outer (w ++ bracket.close :: rest) = afterValue outer rest := by
  rw [afterOpen, skipBlanks_append hw, skipBlanks_cons (isBlank_close bracket)]
  dsimp only
  rw [if_pos rfl]

/-! ## Elements -/

theorem readColon_append {w : Bytes} (hw : IsBlanks w) (rest : Bytes) :
    readColon (w ++ Byte.colon :: rest) = .ok rest := by
  rw [readColon, skipBlanks_append hw, skipBlanks_cons rfl]
  rfl

/-- What stands in front of an element is passed over, up to blanks. -/
theorem skipKey_lead {bracket : Bracket} {lead : Bytes} (h : IsLead bracket lead) :
    ∃ w, IsBlanks w ∧ ∀ bs, skipKey bracket (lead ++ bs) = .ok (w ++ bs) := by
  cases h with
  | list hw => exact ⟨lead, hw, fun bs => rfl⟩
  | @object before name behind gap hbefore hname hbehind hgap =>
    refine ⟨gap, hgap, fun bs => ?_⟩
    simp only [List.append_assoc, List.cons_append]
    rw [skipKey, skipBlanks_append hbefore, skipBlanks_cons rfl]
    dsimp only
    rw [if_pos rfl, skipString_body hname]
    exact readColon_append hbehind (gap ++ bs)

theorem afterValue_comma {bracket : Bracket} (outer : List Bracket) {w : Bytes} (hw : IsBlanks w)
    (bs : Bytes) : afterValue (bracket :: outer) (w ++ Byte.comma :: bs) =
      (skipKey bracket bs).map (Next.value (bracket :: outer)) := by
  rw [afterValue, skipBlanks_append hw, skipBlanks_cons rfl]
  rfl

/-- In front of the first element, blanks may or may not have been passed over already. -/
theorem afterOpen_lead {bracket : Bracket} (outer : List Bracket) {lead v : Bytes}
    (hlead : IsLead bracket lead) (hv : IsValue v) :
    ∃ w, IsBlanks w ∧ ∀ bs, afterOpen bracket outer (lead ++ (v ++ bs)) =
      .ok (.value (bracket :: outer) (w ++ (v ++ bs))) := by
  cases hlead with
  | list hw =>
    -- the blanks are gone when the reader has looked for the end of the list
    obtain ⟨b, t, rfl, hblank, hclose⟩ := exists_cons_of_isValue hv
    refine ⟨[], by rintro b ⟨⟩, fun bs => ?_⟩
    rw [afterOpen, skipBlanks_append hw, List.cons_append, skipBlanks_cons hblank]
    dsimp only
    rw [if_neg (hclose .list)]
    rfl
  | @object before name behind gap hbefore hname hbehind hgap =>
    have hnone : IsBlanks [] := by rintro b ⟨⟩
    obtain ⟨w, hw, hkey⟩ := skipKey_lead (.object hnone hname hbehind hgap)
    refine ⟨w, hw, fun bs => ?_⟩
    have hkey := hkey (v ++ bs)
    rw [List.nil_append, List.cons_append] at hkey
    rw [List.append_assoc, List.cons_append, afterOpen, skipBlanks_append hbefore,
      skipBlanks_cons rfl]
    dsimp only
    rw [if_neg (by decide), hkey]
    rfl

theorem further_nil_append (bs : Bytes) : Element.further [] ++ bs = bs :=
  rfl

theorem further_cons_append (e : Element) (es : List Element) (bs : Bytes) :
    Element.further (e :: es) ++ bs =
      Byte.comma :: (e.lead ++ (e.value ++ (e.trail ++ (Element.further es ++ bs)))) := by
  simp [Element.further, Element.text]

/-- From the value of one element, a run comes to the place behind the closing bracket. The
induction is on the elements that follow. -/
theorem skipFrom_elements {bracket : Bracket} {first : Element} {others : List Element}
    (hframed : ∀ e ∈ first :: others, e.IsFramed bracket)
    (hskips : ∀ e ∈ first :: others, ∃ n, n ≤ e.value.length ∧ Skips n e.value) :
    ∃ n, n ≤ (first.text ++ Element.further others).length ∧ ∀ fuel outer w rest, IsBlanks w →
      skipFrom (fuel + n) (bracket :: outer) (w ++ (first.value ++
        (first.trail ++ (Element.further others ++ bracket.close :: rest)))) =
      resume fuel (afterValue outer rest) := by
  have htrail := (hframed first List.mem_cons_self).2
  obtain ⟨n, hn, hfirst⟩ := hskips first List.mem_cons_self
  -- the first element keeps its place in the statement, so the next one can take it
  induction others generalizing first n with
  | nil =>
    refine ⟨n, ?_, fun fuel outer w rest hw => ?_⟩
    · simp only [Element.text, List.length_append]
      omega
    · rw [further_nil_append,
        hfirst fuel _ w _ hw (ends_append htrail (ends_close bracket rest)),
        afterValue_close bracket outer htrail]
  | cons second others ih =>
    have hsecond : second ∈ first :: second :: others := List.mem_cons_of_mem first List.mem_cons_self
    obtain ⟨k, hk, hskip⟩ := hskips second hsecond
    obtain ⟨m, hm, hrun⟩ := ih (fun e he => hframed e (List.mem_cons_of_mem first he))
      (fun e he => hskips e (List.mem_cons_of_mem first he)) (hframed second hsecond).2 k hk hskip
    obtain ⟨gap, hgap, hkey⟩ := skipKey_lead (hframed second hsecond).1
    -- the first element takes the last `n` of the rounds that are left, the others the rest
    refine ⟨m + n, ?_, fun fuel outer w rest hw => ?_⟩
    · simp only [Element.text, Element.further, List.flatMap_cons, List.length_append,
        List.length_cons] at hm ⊢
      omega
    · rw [← Nat.add_assoc, further_cons_append,
        hfirst (fuel + m) _ w _ hw (ends_append htrail (ends_comma _)),
        afterValue_comma outer htrail, hkey]
      exact hrun fuel outer gap rest hgap

/-! ## Values -/

/-- Every value is passed over, in at most as many rounds as it has bytes. -/
theorem exists_skips_of_isValue {v : Bytes} (h : IsValue v) : ∃ n, n ≤ v.length ∧ Skips n v := by
  induction h with
  | null => exact ⟨1, by decide, @skips_literal Byte.letterN _ rfl rfl fun _ => rfl⟩
  | true => exact ⟨1, by decide, @skips_literal Byte.letterT _ rfl rfl fun _ => rfl⟩
  | false => exact ⟨1, by decide, @skips_literal Byte.letterF _ rfl rfl fun _ => rfl⟩
  | number ht =>
    obtain ⟨b, t, rfl, -⟩ := exists_cons_of_isValue (.number ht)
    exact ⟨1, by simp, skips_number ht⟩
  | string ht => exact ⟨1, by simp, skips_string ht⟩
  | empty bracket hw =>
    refine ⟨1, by simp, fun fuel brackets blanks rest hblanks _ => ?_⟩
    rw [List.cons_append, List.append_assoc, skipFrom_open bracket fuel brackets hblanks]
    exact congrArg (resume fuel) (afterOpen_close bracket brackets hw rest)
  | @elements bracket first others hframed hvalues ih =>
    obtain ⟨n, hn, hrun⟩ := skipFrom_elements hframed ih
    -- one round more for the opening bracket, which is a byte of its own
    refine ⟨n + 1, ?_, fun fuel brackets blanks rest hblanks hrest => ?_⟩
    · simp only [List.length_cons, List.length_append] at hn ⊢
      omega
    · obtain ⟨gap, hgap, hopen⟩ := afterOpen_lead brackets (hframed first List.mem_cons_self).1
        (hvalues first List.mem_cons_self)
      rw [← Nat.add_assoc, List.cons_append, skipFrom_open bracket _ brackets hblanks, Element.text]
      simp only [List.append_assoc]
      rw [hopen]
      exact hrun fuel brackets gap rest hgap

/-- A value is passed over, whatever it holds and however deep. -/
theorem skipValue_append {w v rest : Bytes} (hw : IsBlanks w) (hv : IsValue v)
    (hrest : Ends rest) : skipValue (w ++ (v ++ rest)) = .ok rest := by
  obtain ⟨n, hn, hskips⟩ := exists_skips_of_isValue hv
  have hfuel : (w ++ (v ++ rest)).length + 1 = ((w ++ (v ++ rest)).length + 1 - n) + n := by
    simp only [List.length_append]
    omega
  rw [skipValue, hfuel, hskips _ [] w rest hw hrest]
  rfl

end AsmFormat.Json
