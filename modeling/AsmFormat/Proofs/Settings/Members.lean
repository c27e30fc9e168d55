import AsmFormat.Proofs.Settings.Values

/-!
# Members of a settings object

`ObjectText` is any object: a list of members, each with a name in any spelling and a value of any
kind, and blanks wherever they may stand. Of these members the reader sees the settings with the
texts of their values (`ObjectText.given`); the other members are passed over.

One member adds one setting to those given so far, or is refused (`readMember_eq_ok_iff`). By
induction on the members, the reader accepts the text if it accepts the settings one after the other,
and gathers them (`read_eq_ok_iff`).
-/

set_option autoImplicit false

namespace AsmFormat

open Json

/-! ## Objects -/

/-- A member of an object. -/
structure Member where
  /-- Blanks in front of the name. -/
  before : Bytes
  /-- The name as it stands between its quotes. -/
  spelling : Bytes
  /-- The bytes that the name stands for. -/
  name : Bytes
  /-- Blanks between the name and the colon. -/
  behind : Bytes
  /-- Blanks between the colon and the value. -/
  gap : Bytes
  value : Bytes
  /-- Blanks behind the value. -/
  trail : Bytes
  isBlanks_before : IsBlanks before
  spells : Spells spelling name
  isBlanks_behind : IsBlanks behind
  isBlanks_gap : IsBlanks gap
  isValue : IsValue value
  isBlanks_trail : IsBlanks trail

namespace Member

/-- The text of a member behind the opening quote of its name. -/
def body (m : Member) : Bytes :=
  m.spelling ++ Byte.quote :: (m.behind ++ Byte.colon :: (m.gap ++ (m.value ++ m.trail)))

/-- The text of a member. -/
def text (m : Member) : Bytes :=
  m.before ++ Byte.quote :: m.body

/-- The text of further members, with a comma in front of each. -/
def further (members : List Member) : Bytes :=
  members.flatMap fun m => Byte.comma :: m.text

/-- The text of members. -/
def joined : List Member → Bytes
  | [] => []
  | m :: members => m.text ++ further members

/-- The setting that the member names, with the text of its value. -/
def setting? (m : Member) : Option (Setting × Bytes) :=
  (Setting.ofName? m.name).map fun s => (s, m.value)

end Member

/-- The text of an object. -/
structure ObjectText where
  /-- Blanks in front of the object. -/
  before : Bytes
  /-- Blanks behind the opening brace. -/
  inner : Bytes
  members : List Member
  /-- Blanks behind the object. -/
  after : Bytes
  isBlanks_before : IsBlanks before
  isBlanks_inner : IsBlanks inner
  isBlanks_after : IsBlanks after

namespace ObjectText

/-- The bytes of the text. -/
def text (o : ObjectText) : Bytes :=
  o.before ++ Byte.openObject ::
    (o.inner ++ (Member.joined o.members ++ Byte.closeObject :: o.after))

/-- The settings among the members, with the texts of their values. -/
def given (o : ObjectText) : List (Setting × Bytes) :=
  o.members.filterMap Member.setting?

end ObjectText

theorem Setting.mem_all (s : Setting) : s ∈ Setting.all := by
  rcases s with (_ | _ | _ | _) | (_ | _ | _) <;> decide

/-- The setting of a member is the one with the name that the member has. -/
theorem Setting.ofName?_eq_some_iff {name : Bytes} {s : Setting} :
    Setting.ofName? name = some s ↔ name = Text.utf8 s.name.toList := by
  -- the seven names differ, so the search finds the only setting with the name
  have hinj : ∀ s t : Setting, Text.utf8 s.name.toList = Text.utf8 t.name.toList → s = t := by
    rintro ((_ | _ | _ | _) | (_ | _ | _)) ((_ | _ | _ | _) | (_ | _ | _)) h <;>
      first | rfl | exact absurd h (by decide)
  rw [Setting.ofName?]
  constructor
  · intro h
    have hname := List.find?_some h
    exact (beq_iff_eq.1 hname).symm
  · rintro rfl
    cases hfind : Setting.all.find? fun t => Text.utf8 t.name.toList == Text.utf8 s.name.toList with
    | none =>
      have hnone := List.find?_eq_none.1 hfind s s.mem_all
      exact absurd (beq_self_eq_true _) hnone
    | some t =>
      have hname := List.find?_some hfind
      rw [hinj t s (beq_iff_eq.1 hname)]

/-! ## Settings one after the other -/

/-- Further settings are accepted: each fits, and none has been given before. -/
def Accepts : Overrides → List (Setting × Bytes) → Prop
  | _, [] => True
  | given, (s, v) :: ps =>
    given.gives s = false ∧ s.Fits v ∧ Accepts (given.set s (s.valueOf v)) ps

/-- The settings given so far and further ones. -/
def gather (given : Overrides) (ps : List (Setting × Bytes)) : Overrides :=
  ps.foldl (fun given p => given.set p.1 (p.1.valueOf p.2)) given

namespace Settings

/-! ## One member -/

theorem refuseAgain_ne_ok {α : Type} (s : Setting) (bs : Bytes) (r : α) :
    refuseAgain s bs ≠ .ok r := by
  rw [refuseAgain]
  split <;> rintro ⟨⟩

/-- What a member does to the settings given so far. -/
theorem readMember_eq_ok_iff {given : Overrides} {m : Member} {rest : Bytes} (hrest : Ends rest)
    {r : Overrides × Bytes} :
    readMember given (m.body ++ rest) = .ok r ↔
      Accepts given m.setting?.toList ∧ r = (gather given m.setting?.toList, m.trail ++ rest) := by
  have hends : Ends (m.trail ++ rest) := ends_append m.isBlanks_trail hrest
  rw [Member.body]
  simp only [List.append_assoc, List.cons_append]
  rw [readMember, readString_spelled m.spells]
  simp only [bind, Except.bind]
  cases hsetting : Setting.ofName? m.name with
  | none =>
    -- the value is passed over, whatever it is
    have hnone : m.setting?.toList = [] := by
      rw [Member.setting?, hsetting]
      rfl
    dsimp only
    rw [readColon_append m.isBlanks_behind, hnone]
    dsimp only
    rw [skipValue_append m.isBlanks_gap m.isValue hends]
    constructor
    · rintro ⟨⟩
      exact ⟨trivial, rfl⟩
    · rintro ⟨-, rfl⟩
      rfl
  | some s =>
    have hsome : m.setting?.toList = [(s, m.value)] := by
      rw [Member.setting?, hsetting]
      rfl
    dsimp only
    rw [hsome]
    cases hgives : given.gives s with
    | true =>
      -- the reader does not come to the value
      rw [if_pos rfl]
      constructor
      · intro h
        exact absurd h (refuseAgain_ne_ok _ _ _)
      · rintro ⟨⟨hnew, -⟩, -⟩
        rw [hgives] at hnew
        cases hnew
    | false =>
      rw [if_neg (by simp), readColon_append m.isBlanks_behind]
      dsimp only
      rw [readSetting_eq_ok_iff m.isBlanks_gap m.isValue hends]
      constructor
      · rintro ⟨hfits, rfl⟩
        exact ⟨⟨hgives, hfits, trivial⟩, rfl⟩
      · rintro ⟨⟨-, hfits, -⟩, rfl⟩
        exact ⟨hfits, rfl⟩

/-! ## All members -/

theorem accepts_append {given : Overrides} {ps qs : List (Setting × Bytes)} :
    Accepts given (ps ++ qs) ↔ Accepts given ps ∧ Accepts (gather given ps) qs := by
  induction ps generalizing given with
  | nil =>
    constructor
    · intro h
      exact ⟨trivial, h⟩
    · rintro ⟨-, h⟩
      exact h
  | cons p ps ih =>
    obtain ⟨s, v⟩ := p
    rw [List.cons_append, Accepts, Accepts, ih, and_assoc, and_assoc]
    rfl

theorem gather_append (given : Overrides) (ps qs : List (Setting × Bytes)) :
    gather given (ps ++ qs) = gather (gather given ps) qs :=
  List.foldl_append

theorem filterMap_setting?_cons (m : Member) (members : List Member) :
    (m :: members).filterMap Member.setting? =
      m.setting?.toList ++ members.filterMap Member.setting? := by
  rw [List.filterMap_cons]
  cases m.setting? <;> rfl

/-- The members from a name on, behind its opening quote. -/
def readFrom (fuel : Nat) (given : Overrides) (bs : Bytes) : Except Fault (Overrides × Bytes) :=
  readMember given bs >>= fun found => readMembers fuel false found.1 found.2

theorem readMembers_first (fuel : Nat) (given : Overrides) {w : Bytes} (hw : IsBlanks w)
    (m : Member) (bs : Bytes) :
    readMembers (fuel + 1) true given (w ++ (m.text ++ bs)) = readFrom fuel given (m.body ++ bs) := by
  rw [Member.text, List.append_assoc, List.cons_append, readMembers, skipBlanks_append hw,
    skipBlanks_append m.isBlanks_before, skipBlanks_cons rfl]
  dsimp only
  rw [if_neg (by decide), if_pos rfl, if_pos rfl, readFrom]
  dsimp only
  cases readMember given (m.body ++ bs) <;> rfl

theorem readMembers_comma (fuel : Nat) (given : Overrides) {w : Bytes} (hw : IsBlanks w)
    (m : Member) (bs : Bytes) :
    readMembers (fuel + 1) false given (w ++ Byte.comma :: (m.text ++ bs)) =
      readFrom fuel given (m.body ++ bs) := by
  have hcomma : afterComma (m.text ++ bs) = .ok (m.body ++ bs) := by
    rw [Member.text, List.append_assoc, List.cons_append, afterComma,
      skipBlanks_append m.isBlanks_before, skipBlanks_cons rfl]
    rfl
  rw [readMembers, skipBlanks_append hw, skipBlanks_cons rfl]
  dsimp only
  rw [if_neg (by decide), if_neg (by decide), if_pos rfl, hcomma, readFrom]
  dsimp only
  cases readMember given (m.body ++ bs) <;> rfl

theorem readMembers_close (fuel : Nat) (isFirst : Bool) (given : Overrides) {w : Bytes}
    (hw : IsBlanks w) (rest : Bytes) :
    readMembers (fuel + 1) isFirst given (w ++ Byte.closeObject :: rest) = .ok (given, rest) := by
  rw [readMembers, skipBlanks_append hw, skipBlanks_cons rfl]
  rfl

theorem further_cons_append (m : Member) (members : List Member) (bs : Bytes) :
    Member.further (m :: members) ++ bs =
      Byte.comma :: (m.text ++ (Member.further members ++ bs)) := by
  simp [Member.further]

theorem ends_further (members : List Member) (rest : Bytes) :
    Ends (Member.further members ++ Byte.closeObject :: rest) := by
  cases members with
  | nil => exact ends_close .object rest
  | cons m members =>
    rw [further_cons_append]
    exact ends_comma _

/-- A member and those behind it are read one after the other. -/
theorem readFrom_eq_ok_iff {fuel : Nat} {given : Overrides} {m : Member} {members : List Member}
    {rest : Bytes} (hfuel : members.length < fuel) {r : Overrides × Bytes} :
    readFrom fuel given (m.body ++ (Member.further members ++ Byte.closeObject :: rest)) = .ok r ↔
      Accepts given ((m :: members).filterMap Member.setting?) ∧
        r = (gather given ((m :: members).filterMap Member.setting?), rest) := by
  -- one unit of fuel is left for each member behind this one, and one for the closing brace
  induction members generalizing fuel given m with
  | nil =>
    obtain ⟨k, rfl⟩ := Nat.exists_eq_add_of_lt hfuel
    rw [readFrom, bind_eq_ok_iff, filterMap_setting?_cons, List.filterMap_nil, List.append_nil]
    constructor
    · rintro ⟨found, hmember, hclose⟩
      obtain ⟨haccepts, rfl⟩ := (readMember_eq_ok_iff (ends_further [] rest)).1 hmember
      rw [Member.further, List.flatMap_nil, List.nil_append,
        readMembers_close _ _ _ m.isBlanks_trail] at hclose
      cases hclose
      exact ⟨haccepts, rfl⟩
    · rintro ⟨haccepts, rfl⟩
      refine ⟨_, (readMember_eq_ok_iff (ends_further [] rest)).2 ⟨haccepts, rfl⟩, ?_⟩
      exact readMembers_close _ _ _ m.isBlanks_trail rest
  | cons next members ih =>
    obtain ⟨k, rfl⟩ := Nat.exists_eq_add_of_lt hfuel
    have hfuel' : members.length < members.length + 1 + k := by omega
    rw [readFrom, bind_eq_ok_iff, filterMap_setting?_cons, accepts_append, gather_append]
    constructor
    · rintro ⟨found, hmember, hfurther⟩
      obtain ⟨haccepts, rfl⟩ := (readMember_eq_ok_iff (ends_further _ rest)).1 hmember
      rw [further_cons_append, List.length_cons, readMembers_comma _ _ m.isBlanks_trail,
        ih hfuel'] at hfurther
      exact ⟨⟨haccepts, hfurther.1⟩, hfurther.2⟩
    · rintro ⟨⟨haccepts, hfurther⟩, rfl⟩
      refine ⟨_, (readMember_eq_ok_iff (ends_further _ rest)).2 ⟨haccepts, rfl⟩, ?_⟩
      rw [further_cons_append, List.length_cons, readMembers_comma _ _ m.isBlanks_trail, ih hfuel']
      exact ⟨hfurther, rfl⟩

theorem length_le_further (members : List Member) : members.length ≤ (Member.further members).length := by
  induction members with
  | nil => exact Nat.le_refl 0
  | cons m members ih =>
    have hcons := further_cons_append m members []
    rw [List.append_nil, List.append_nil] at hcons
    rw [hcons, List.length_cons, List.length_cons, List.length_append]
    omega

/-- The members of an object are read one after the other. -/
theorem readMembers_eq_ok_iff {w : Bytes} (hw : IsBlanks w) {members : List Member} {rest : Bytes}
    {fuel : Nat} (hfuel : (Member.joined members).length < fuel) {r : Overrides × Bytes} :
    readMembers fuel true Overrides.none
        (w ++ (Member.joined members ++ Byte.closeObject :: rest)) = .ok r ↔
      Accepts Overrides.none (members.filterMap Member.setting?) ∧
        r = (gather Overrides.none (members.filterMap Member.setting?), rest) := by
  cases members with
  | nil =>
    obtain ⟨k, rfl⟩ := Nat.exists_eq_add_of_lt hfuel
    rw [Member.joined, List.nil_append, readMembers_close _ _ _ hw]
    constructor
    · rintro ⟨⟩
      exact ⟨trivial, rfl⟩
    · rintro ⟨-, rfl⟩
      rfl
  | cons m members =>
    have hlength := length_le_further members
    rw [Member.joined, Member.text, List.length_append, List.length_append, List.length_cons] at hfuel
    obtain ⟨k, rfl⟩ := Nat.exists_eq_add_of_lt hfuel
    rw [Member.joined, List.append_assoc, readMembers_first _ _ hw]
    exact readFrom_eq_ok_iff (by omega)

theorem readGiven_eq_ok_iff (o : ObjectText) {given : Overrides} :
    readGiven o.text = .ok given ↔
      Accepts Overrides.none o.given ∧ given = gather Overrides.none o.given := by
  have hafter : skipBlanks o.after = [] := by
    have h := skipBlanks_append o.isBlanks_after []
    rw [List.append_nil] at h
    exact h
  have hopen : skipBlanks o.text = Byte.openObject ::
      (o.inner ++ (Member.joined o.members ++ Byte.closeObject :: o.after)) := by
    rw [ObjectText.text, skipBlanks_append o.isBlanks_before, skipBlanks_cons rfl]
  have hmembers : ∀ r, readMembers
      ((o.inner ++ (Member.joined o.members ++ Byte.closeObject :: o.after)).length + 1) true
      Overrides.none (o.inner ++ (Member.joined o.members ++ Byte.closeObject :: o.after)) = .ok r ↔
      Accepts Overrides.none o.given ∧ r = (gather Overrides.none o.given, o.after) := by
    intro r
    apply readMembers_eq_ok_iff o.isBlanks_inner
    rw [List.length_append, List.length_append]
    omega
  rw [readGiven, hopen]
  dsimp only
  rw [if_pos rfl, bind_eq_ok_iff]
  constructor
  · rintro ⟨found, hread, hgiven⟩
    obtain ⟨haccepts, rfl⟩ := (hmembers found).1 hread
    rw [hafter] at hgiven
    cases hgiven
    exact ⟨haccepts, rfl⟩
  · rintro ⟨haccepts, rfl⟩
    refine ⟨_, (hmembers _).2 ⟨haccepts, rfl⟩, ?_⟩
    dsimp only
    rw [hafter]

/-- The text of an object is read if the settings in it are accepted, and then they are gathered. -/
theorem read_eq_ok_iff (o : ObjectText) {x : Settings} :
    Settings.read o.text = .ok x ↔
      Accepts Overrides.none o.given ∧ x = (gather Overrides.none o.given).applyTo {} := by
  rw [Settings.read]
  constructor
  · intro h
    cases hgiven : readGiven o.text with
    | error fault =>
      rw [hgiven] at h
      cases h
    | ok given =>
      obtain ⟨haccepts, rfl⟩ := (readGiven_eq_ok_iff o).1 hgiven
      rw [hgiven] at h
      cases h
      exact ⟨haccepts, rfl⟩
  · rintro ⟨haccepts, rfl⟩
    rw [(readGiven_eq_ok_iff o).2 ⟨haccepts, rfl⟩]
    rfl

end Settings

end AsmFormat
