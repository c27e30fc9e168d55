import AsmFormat.Proofs.Settings.Members
import Mathlib.Data.List.Basic

/-!
# Layers of settings

Settings have three layers: defaults, a settings file, and overrides. Each of the seven settings is
taken from the last layer that gives it, whatever becomes of the other six (`Layered`).

Main statement: the text of an object is read exactly if it is admissible, that is, if no setting
occurs twice and every value fits its setting; what is read is layered under any overrides; and
neither the order of the members nor members of other names matter (`read_layered`).
-/

set_option autoImplicit false

namespace AsmFormat

open Json

/-! ## Settings by name -/

namespace Settings

/-- The value of a setting. -/
def value (x : Settings) : (s : Setting) → s.Value
  | .column c => x.column c
  | .flag f => x.flag f

/-- The settings are known by their values. -/
theorem eq_of_value_eq {x y : Settings} (h : ∀ s, x.value s = y.value s) : x = y := by
  have hlabel : x.labelColumn = y.labelColumn := h (.column .label)
  have hinstruction : x.instructionColumn = y.instructionColumn := h (.column .instruction)
  have hoperand : x.operandColumn = y.operandColumn := h (.column .operand)
  have hcomment : x.commentColumn = y.commentColumn := h (.column .comment)
  have hinstructions : x.uppercaseInstructions = y.uppercaseInstructions :=
    h (.flag .uppercaseInstructions)
  have hdirectives : x.uppercaseDirectives = y.uppercaseDirectives := h (.flag .uppercaseDirectives)
  have hcomma : x.spaceAfterComma = y.spaceAfterComma := h (.flag .spaceAfterComma)
  cases x
  cases y
  simp_all

end Settings

namespace Overrides

/-- The value given for a setting, if any. -/
def value (o : Overrides) : (s : Setting) → Option s.Value
  | .column c => o.column c
  | .flag f => o.flag f

theorem gives_eq (o : Overrides) (s : Setting) : o.gives s = (o.value s).isSome := by
  cases s <;> rfl

theorem value_none (s : Setting) : Overrides.none.value s = .none := by
  cases s <;> rfl

theorem value_set_self (o : Overrides) (s : Setting) (x : s.Value) :
    (o.set s x).value s = some x := by
  cases s with
  | column c => exact if_pos rfl
  | flag f => exact if_pos rfl

/-- Giving one setting leaves the others as they are. -/
theorem value_set_of_ne (o : Overrides) {s t : Setting} (h : t ≠ s) (x : s.Value) :
    (o.set s x).value t = o.value t := by
  cases s with
  | column c =>
    cases t with
    | column c' => exact if_neg fun hc => h (congrArg Setting.column hc)
    | flag f => rfl
  | flag f =>
    cases t with
    | column c => rfl
    | flag f' => exact if_neg fun hf => h (congrArg Setting.flag hf)

/-- A setting is the override if given, else the old value. -/
theorem value_applyTo (o : Overrides) (x : Settings) (s : Setting) :
    (o.applyTo x).value s = (o.value s).getD (x.value s) := by
  cases s with
  | column c => exact column_applyTo o x c
  | flag f => exact flag_applyTo o x f

end Overrides

/-! ## Settings that are gathered -/

theorem value_gather_of_not_mem {given : Overrides} {ps : List (Setting × Bytes)} {s : Setting}
    (h : ∀ v, (s, v) ∉ ps) : (gather given ps).value s = given.value s := by
  induction ps generalizing given with
  | nil => rfl
  | cons p ps ih =>
    obtain ⟨t, u⟩ := p
    have hne : s ≠ t := by
      rintro rfl
      exact h u List.mem_cons_self
    have htail : ∀ v, (s, v) ∉ ps := fun v hv => h v (List.mem_cons_of_mem _ hv)
    calc (gather given ((t, u) :: ps)).value s
        = (gather (given.set t (t.valueOf u)) ps).value s := rfl
      _ = (given.set t (t.valueOf u)).value s := ih htail
      _ = given.value s := Overrides.value_set_of_ne given hne _

theorem value_gather_of_mem {given : Overrides} {ps : List (Setting × Bytes)} {s : Setting}
    {v : Bytes} (hnodup : (ps.map Prod.fst).Nodup) (h : (s, v) ∈ ps) :
    (gather given ps).value s = some (s.valueOf v) := by
  induction ps generalizing given with
  | nil => cases h
  | cons p ps ih =>
    obtain ⟨t, u⟩ := p
    rw [List.map_cons, List.nodup_cons] at hnodup
    cases h with
    | head =>
      -- the setting does not occur again, so nothing replaces what was given
      have htail : ∀ w, (s, w) ∉ ps := fun w hw => hnodup.1 (List.mem_map.2 ⟨(s, w), hw, rfl⟩)
      calc (gather given ((s, v) :: ps)).value s
          = (gather (given.set s (s.valueOf v)) ps).value s := rfl
        _ = (given.set s (s.valueOf v)).value s := value_gather_of_not_mem htail
        _ = some (s.valueOf v) := Overrides.value_set_self given s _
    | tail _ hmem => exact ih hnodup.2 hmem

theorem gives_set_eq_false_iff {given : Overrides} {s t : Setting} {x : s.Value} :
    (given.set s x).gives t = false ↔ t ≠ s ∧ given.gives t = false := by
  rw [Overrides.gives_eq, Overrides.gives_eq]
  constructor
  · intro h
    have hne : t ≠ s := by
      rintro rfl
      rw [Overrides.value_set_self] at h
      cases h
    rw [Overrides.value_set_of_ne given hne] at h
    exact ⟨hne, h⟩
  · rintro ⟨hne, h⟩
    rw [Overrides.value_set_of_ne given hne]
    exact h

/-- Settings are accepted if each is new and fits, and none occurs twice. -/
theorem accepts_iff {given : Overrides} {ps : List (Setting × Bytes)} :
    Accepts given ps ↔ (∀ p ∈ ps, given.gives p.1 = false) ∧ (ps.map Prod.fst).Nodup ∧
      ∀ p ∈ ps, p.1.Fits p.2 := by
  induction ps generalizing given with
  | nil =>
    constructor
    · intro _
      exact ⟨by rintro p ⟨⟩, List.nodup_nil, by rintro p ⟨⟩⟩
    · intro _
      trivial
  | cons p ps ih =>
    obtain ⟨s, v⟩ := p
    rw [Accepts, ih, List.map_cons, List.nodup_cons, List.forall_mem_cons, List.forall_mem_cons]
    constructor
    · -- what is new behind a setting is another setting
      rintro ⟨hnew, hfits, htail, hnodup, htailfits⟩
      refine ⟨⟨hnew, fun p hp => (gives_set_eq_false_iff.1 (htail p hp)).2⟩, ⟨?_, hnodup⟩, hfits,
        htailfits⟩
      intro hmem
      obtain ⟨p, hp, hfst⟩ := List.mem_map.1 hmem
      exact (gives_set_eq_false_iff.1 (htail p hp)).1 hfst
    · rintro ⟨⟨hnew, htail⟩, ⟨hnot, hnodup⟩, hfits, htailfits⟩
      refine ⟨hnew, hfits, fun p hp => gives_set_eq_false_iff.2 ⟨?_, htail p hp⟩, hnodup, htailfits⟩
      rintro rfl
      exact hnot (List.mem_map.2 ⟨p, hp, rfl⟩)

/-! ## Layers -/

/-- The member has the name of the setting. -/
def Member.Names (m : Member) (s : Setting) : Prop :=
  m.name = Text.utf8 s.name.toList

instance (m : Member) (s : Setting) : Decidable (m.Names s) :=
  inferInstanceAs (Decidable (m.name = Text.utf8 s.name.toList))

/-- No setting occurs twice, and every setting has a value that fits. -/
structure ObjectText.Admissible (o : ObjectText) : Prop where
  once : ∀ s, o.members.countP (fun m => m.Names s) ≤ 1
  fits : ∀ m ∈ o.members, ∀ s, m.Names s → s.Fits m.value

/-- The same settings with the same values occur, equally often. -/
def ObjectText.SameSettings (o o' : ObjectText) : Prop :=
  ∀ s v, o.members.countP (fun m => m.Names s ∧ m.value = v) =
    o'.members.countP (fun m => m.Names s ∧ m.value = v)

/-- Each setting is the override if given, else what the text says if it says something, else the
default. -/
structure Layered (overrides : Overrides) (o : ObjectText) (result : Settings) : Prop where
  ofOverride : ∀ s x, overrides.value s = some x → result.value s = x
  ofText : ∀ s, overrides.value s = none → ∀ m ∈ o.members, m.Names s →
    s.Says m.value (result.value s)
  ofDefault : ∀ s, overrides.value s = none → (∀ m ∈ o.members, ¬m.Names s) →
    result.value s = ({} : Settings).value s

/-- The reader's setting of a member, by the name. -/
theorem Member.setting?_eq_some_iff {m : Member} {s : Setting} {v : Bytes} :
    m.setting? = some (s, v) ↔ m.Names s ∧ m.value = v := by
  rw [Member.setting?, Option.map_eq_some_iff]
  constructor
  · rintro ⟨t, hname, hpair⟩
    cases hpair
    exact ⟨Setting.ofName?_eq_some_iff.1 hname, rfl⟩
  · rintro ⟨hname, rfl⟩
    exact ⟨s, Setting.ofName?_eq_some_iff.2 hname, rfl⟩

theorem getD_map_eq_true_iff {α : Type} {p : α → Bool} {found : Option α} :
    (found.map p).getD false = true ↔ ∃ a, found = some a ∧ p a = true := by
  cases found <;> simp

namespace ObjectText

theorem mem_given_iff {o : ObjectText} {s : Setting} {v : Bytes} :
    (s, v) ∈ o.given ↔ ∃ m ∈ o.members, m.Names s ∧ m.value = v := by
  rw [given, List.mem_filterMap]
  exact exists_congr fun m => and_congr_right fun _ => Member.setting?_eq_some_iff

theorem count_given (o : ObjectText) (s : Setting) (v : Bytes) :
    o.given.count (s, v) = o.members.countP fun m => m.Names s ∧ m.value = v := by
  rw [given, List.count, List.countP_filterMap]
  apply List.countP_congr
  intro m _
  rw [getD_map_eq_true_iff, decide_eq_true_iff, ← Member.setting?_eq_some_iff]
  constructor
  · rintro ⟨p, hp, hbeq⟩
    rw [hp, beq_iff_eq.1 hbeq]
  · intro h
    exact ⟨(s, v), h, beq_self_eq_true _⟩

theorem count_map_fst_given (o : ObjectText) (s : Setting) :
    (o.given.map Prod.fst).count s = o.members.countP fun m => m.Names s := by
  rw [given, List.count, List.countP_map, List.countP_filterMap]
  apply List.countP_congr
  intro m _
  rw [getD_map_eq_true_iff, decide_eq_true_iff]
  constructor
  · rintro ⟨⟨t, v⟩, hp, hbeq⟩
    obtain rfl : t = s := beq_iff_eq.1 hbeq
    exact (Member.setting?_eq_some_iff.1 hp).1
  · intro h
    exact ⟨(s, m.value), Member.setting?_eq_some_iff.2 ⟨h, rfl⟩, beq_self_eq_true s⟩

theorem perm_given_iff {o o' : ObjectText} : o.given.Perm o'.given ↔ o.SameSettings o' := by
  rw [List.perm_iff_count]
  constructor
  · intro h s v
    rw [← count_given, ← count_given]
    exact h (s, v)
  · rintro h ⟨s, v⟩
    rw [count_given, count_given]
    exact h s v

/-- The reader accepts exactly the settings of an admissible text. -/
theorem accepts_given_iff {o : ObjectText} : Accepts Overrides.none o.given ↔ o.Admissible := by
  rw [accepts_iff, List.nodup_iff_count]
  constructor
  · rintro ⟨-, honce, hfits⟩
    refine ⟨fun s => ?_, fun m hm s hname => ?_⟩
    · rw [← count_map_fst_given]
      exact honce s
    · exact hfits (s, m.value) (mem_given_iff.2 ⟨m, hm, hname, rfl⟩)
  · rintro ⟨honce, hfits⟩
    refine ⟨fun p _ => ?_, fun s => ?_, fun p hp => ?_⟩
    · rw [Overrides.gives_eq, Overrides.value_none]
      rfl
    · rw [count_map_fst_given]
      exact honce s
    · obtain ⟨m, hm, hname, hvalue⟩ := mem_given_iff.1 hp
      rw [← hvalue]
      exact hfits m hm p.1 hname

theorem Admissible.nodup {o : ObjectText} (h : o.Admissible) : (o.given.map Prod.fst).Nodup :=
  (accepts_iff.1 (accepts_given_iff.2 h)).2.1

theorem admissible_iff_of_perm {o o' : ObjectText} (h : o.given.Perm o'.given) :
    o.Admissible ↔ o'.Admissible := by
  have hfits : (∀ p ∈ o.given, p.1.Fits p.2) ↔ ∀ p ∈ o'.given, p.1.Fits p.2 :=
    forall_congr' fun p => imp_congr_left h.mem_iff
  have hnew : (∀ p ∈ o.given, Overrides.none.gives p.1 = false) ↔
      ∀ p ∈ o'.given, Overrides.none.gives p.1 = false :=
    forall_congr' fun p => imp_congr_left h.mem_iff
  rw [← accepts_given_iff, ← accepts_given_iff, accepts_iff, accepts_iff,
    (h.map Prod.fst).nodup_iff, hfits, hnew]

end ObjectText

namespace Settings

theorem layered_gather {o : ObjectText} (h : o.Admissible) (overrides : Overrides) :
    Layered overrides o (overrides.applyTo ((gather Overrides.none o.given).applyTo {})) := by
  refine ⟨fun s x hover => ?_, fun s hover m hm hname => ?_, fun s hover hnot => ?_⟩
  · rw [Overrides.value_applyTo, hover]
    rfl
  · have hmem : (s, m.value) ∈ o.given := ObjectText.mem_given_iff.2 ⟨m, hm, hname, rfl⟩
    rw [Overrides.value_applyTo, hover, Option.getD_none, Overrides.value_applyTo,
      value_gather_of_mem h.nodup hmem]
    exact Setting.says_valueOf (h.fits m hm s hname)
  · have hnone : ∀ v, (s, v) ∉ o.given := by
      intro v hv
      obtain ⟨m, hm, hname, -⟩ := ObjectText.mem_given_iff.1 hv
      exact hnot m hm hname
    rw [Overrides.value_applyTo, hover, Option.getD_none, Overrides.value_applyTo,
      value_gather_of_not_mem hnone, Overrides.value_none]
    rfl

/-- Gathering does not depend on the order of the settings. -/
theorem applyTo_gather_of_perm {ps qs : List (Setting × Bytes)} (h : ps.Perm qs)
    (hnodup : (ps.map Prod.fst).Nodup) (x : Settings) :
    (gather Overrides.none ps).applyTo x = (gather Overrides.none qs).applyTo x := by
  apply eq_of_value_eq
  intro s
  rw [Overrides.value_applyTo, Overrides.value_applyTo]
  by_cases hmem : ∃ v, (s, v) ∈ ps
  · obtain ⟨v, hv⟩ := hmem
    have hnodup' : (qs.map Prod.fst).Nodup := (h.map Prod.fst).nodup_iff.1 hnodup
    rw [value_gather_of_mem hnodup hv, value_gather_of_mem hnodup' (h.mem_iff.1 hv)]
  · -- neither list gives the setting
    have hps : ∀ v, (s, v) ∉ ps := fun v hv => hmem ⟨v, hv⟩
    have hqs : ∀ v, (s, v) ∉ qs := fun v hv => hmem ⟨v, h.mem_iff.2 hv⟩
    rw [value_gather_of_not_mem hps, value_gather_of_not_mem hqs]

/-- The text of an object is read exactly if it is admissible. Each setting is then taken from the
last layer that gives it: the overrides, the text, or the defaults. The order of the members and
members of other names do not matter. -/
theorem read_layered (o : ObjectText) :
    ((∃ x, Settings.read o.text = .ok x) ↔ o.Admissible) ∧
      (∀ x overrides, Settings.read o.text = .ok x →
        Layered overrides o (overrides.applyTo x)) ∧
      ∀ (o' : ObjectText) x, o.SameSettings o' →
        (Settings.read o.text = .ok x ↔ Settings.read o'.text = .ok x) := by
  refine ⟨?_, fun x overrides hread => ?_, fun o' x hsame => ?_⟩
  · rw [← ObjectText.accepts_given_iff]
    constructor
    · rintro ⟨x, hread⟩
      exact ((read_eq_ok_iff o).1 hread).1
    · intro haccepts
      exact ⟨_, (read_eq_ok_iff o).2 ⟨haccepts, rfl⟩⟩
  · obtain ⟨haccepts, rfl⟩ := (read_eq_ok_iff o).1 hread
    exact layered_gather (ObjectText.accepts_given_iff.1 haccepts) overrides
  · have hperm := ObjectText.perm_given_iff.2 hsame
    have hadmissible := ObjectText.admissible_iff_of_perm hperm
    rw [read_eq_ok_iff, read_eq_ok_iff, ObjectText.accepts_given_iff,
      ObjectText.accepts_given_iff, ← hadmissible]
    apply and_congr_right
    intro h
    rw [applyTo_gather_of_perm hperm h.nodup]

/-! ### A settings file in two orders -/

/-- A member without blanks whose name has no escapes. -/
def bareMember (name value : Bytes) (hname : Spells name name) (hvalue : IsValue value) : Member where
  before := []
  spelling := name
  name := name
  behind := []
  gap := []
  value := value
  trail := []
  isBlanks_before := by decide
  spells := hname
  isBlanks_behind := by decide
  isBlanks_gap := by decide
  isValue := hvalue
  isBlanks_trail := by decide

/-- An object without blanks. -/
def bareObject (members : List Member) : ObjectText where
  before := []
  inner := []
  members := members
  after := []
  isBlanks_before := by decide
  isBlanks_inner := by decide
  isBlanks_after := by decide

/-- A name without escapes is spelled as it is. -/
theorem spells_self {name : Bytes} (h : (name.all fun b => IsPlain b) = true) :
    Spells name name := by
  induction name with
  | nil => exact .nil
  | cons b name ih =>
    rw [List.all_cons, Bool.and_eq_true, decide_eq_true_iff] at h
    exact .plain h.1 (ih h.2)

/-- Comments stand in column 32. -/
def commentMember : Member :=
  bareMember (Text.utf8 "commentColumn".toList) [0x33, 0x32] (spells_self (by decide))
    (.number (.unsigned ⟨[0x33, 0x32], [], [], .digits (by decide) (by decide) (by decide), .nil,
      .nil, rfl⟩))

/-- Commas are left as they are. -/
def commaMember : Member :=
  bareMember (Text.utf8 "spaceAfterComma".toList) (Text.utf8 "false".toList)
    (spells_self (by decide)) .false

/-- A member that is no setting, with a list in its value. -/
def tabMember : Member :=
  bareMember (Text.utf8 "editor.tabSize".toList) (Text.utf8 "[]".toList) (spells_self (by decide))
    (.empty .list (by decide))

/-- In either order, with the other member or without it, the file gives two settings. An override
replaces one of them and leaves the other. -/
theorem read_layered_of_two_orders :
    Settings.read (bareObject [commentMember, tabMember, commaMember]).text =
        .ok { commentColumn := 32, spaceAfterComma := false } ∧
      Settings.read (bareObject [commaMember, commentMember]).text =
        .ok { commentColumn := 32, spaceAfterComma := false } ∧
      Layered (Overrides.none.setColumn .comment 50)
        (bareObject [commentMember, tabMember, commaMember])
        { commentColumn := 50, spaceAfterComma := false } := by
  have hread : Settings.read (bareObject [commentMember, tabMember, commaMember]).text =
      .ok { commentColumn := 32, spaceAfterComma := false } := rfl
  obtain ⟨-, hlayered, hperm⟩ :=
    read_layered (bareObject [commentMember, tabMember, commaMember])
  refine ⟨hread, ?_, hlayered _ (Overrides.none.setColumn .comment 50) hread⟩
  refine (hperm (bareObject [commaMember, commentMember]) _ ?_).1 hread
  exact ObjectText.perm_given_iff.1 (List.Perm.swap _ _ [])

end Settings

end AsmFormat
