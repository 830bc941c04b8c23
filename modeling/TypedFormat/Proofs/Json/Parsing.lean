import Mathlib
import TypedFormat.Proofs.Json.Records
import TypedFormat.Proofs.Json.Spelling

/-!
# A written value is read as its tree

`Value.tree` is the tree of the text of a value, whether it is written compactly or with an item to
a line (`Tree.ofText?_writeAt`), if the numbers in it come back. The machine that builds trees is
followed along the text itself: `Building.read` is what a building comes to when it takes the tokens of
a text. It needs no more of a number than that its literal has its value (`readsBack_iff`).
-/

namespace TypedFormat.Json

open scoped TypedFormat.Standard

/-- Induction over values, with a premise for all items of an array and for all members of an
object. -/
@[elab_as_elim]
theorem Value.induction {P : Value → Prop} (null : P .null) (boolean : ∀ b, P (.boolean b))
    (integer : ∀ v, P (.integer v)) (float : ∀ x, P (.float x)) (string : ∀ s, P (.string s))
    (array : ∀ items, (∀ item ∈ items, P item) → P (.array items))
    (object : ∀ members, (∀ member ∈ members, P member.2) → P (.object members)) (v : Value) :
    P v := by
  match v with
  | .null => exact null
  | .boolean b => exact boolean b
  | .integer v => exact integer v
  | .float x => exact float x
  | .string s => exact string s
  | .array items =>
    exact array items fun item _ =>
      Value.induction null boolean integer float string array object item
  | .object members =>
    exact object members fun member hmember =>
      have := sizeOf_member_lt hmember
      Value.induction null boolean integer float string array object member.2

/-! ### Taking the tokens of a text -/

namespace Building

/-- What a building comes to with the tokens of a text. -/
def read (building : Building) (text : List Char) : Option Building :=
  (tokens? text).bind building.run

variable {building next : Building} {token : Token} {text rest : List Char}

lemma read_nil (building : Building) : building.read [] = some building := by
  simp [read, tokens?, run]

lemma read_of_step (htoken : tokens? text = (tokens? rest).map (token :: ·))
    (hstep : building.step token = some next) : building.read text = next.read rest := by
  unfold read
  rw [htoken]
  cases tokens? rest with
  | none => rfl
  | some tokens => simp [run, hstep]

lemma read_congr (h : tokens? text = tokens? rest) : building.read text = building.read rest := by
  rw [read, read, h]

end Building

/-! ### Blanks and punctuation -/

lemma tokens?_newline (spacing : Spacing) (depth : Nat) (text : List Char) :
    tokens? (spacing.newline depth ++ text) = tokens? text := by
  cases spacing with
  | compact => rfl
  | pretty =>
    have hspaces : ∀ n, tokens? (List.replicate n ' ' ++ text) = tokens? text := by
      intro n
      induction n with
      | zero => rfl
      | succ n ih =>
        rw [List.replicate_succ, List.cons_append, tokens?_space rfl, ih]
    rw [Spacing.newline, List.cons_append, tokens?_space rfl, hspaces]

lemma tokens?_colon (spacing : Spacing) (text : List Char) :
    tokens? (spacing.colon ++ text) = (tokens? text).map (.colon :: ·) := by
  cases spacing with
  | compact => exact tokens?_cons rfl rfl
  | pretty =>
    have hspace : tokens? (' ' :: text) = tokens? text := tokens?_space rfl text
    rw [← hspace]
    exact tokens?_cons rfl rfl

lemma tokens?_boolean (b : Bool) (rest : List Char) :
    tokens? ((if b then "true" else "false").toList ++ rest)
      = (tokens? rest).map (.boolean b :: ·) := by
  cases b <;> exact tokens?_cons rfl rfl

/-- What stands after an item or a member ends a number. -/
lemma endsNumber_newline (spacing : Spacing) (depth : Nat) {c : Char}
    (hc : c.isDigit = false ∧ c ≠ '.' ∧ c ≠ 'e' ∧ c ≠ 'E') (text : List Char) :
    EndsNumber (spacing.newline depth ++ c :: text) := by
  cases spacing with
  | compact => exact endsNumber_cons hc text
  | pretty => exact endsNumber_cons (by decide) _

lemma endsNumber_writeItems (spacing : Spacing) (depth outer : Nat) (items : List Value)
    (text : List Char) :
    EndsNumber (writeItems spacing depth items ++ (spacing.newline outer ++ ']' :: text)) := by
  cases items with
  | nil => exact endsNumber_newline spacing outer (by decide) text
  | cons item items => exact endsNumber_cons (by decide) _

lemma endsNumber_writeMembers (spacing : Spacing) (depth outer : Nat)
    (members : List (String × Value)) (text : List Char) :
    EndsNumber (writeMembers spacing depth members ++ (spacing.newline outer ++ '\x7d' :: text)) := by
  cases members with
  | nil => exact endsNumber_newline spacing outer (by decide) text
  | cons member members => exact endsNumber_cons (by decide) _

/-! ### Building along a text -/

namespace Building

/-- A building that takes the first token of a value, within the brackets that are open then. -/
def Begins (building : Building) (frames : List Frame) : Prop :=
  ∀ token, token ≠ .rightBracket → building.step token = begin frames token

lemma begins_value (frames : List Frame) : Begins (.value frames) frames := by
  intro token _
  rfl

lemma begins_firstItem (frames : List Frame) : Begins (.firstItem frames) (.array [] :: frames) := by
  intro token htoken
  cases token <;> first | rfl | contradiction

/-- The text of a value, at some spacing, completes a tree, whatever brackets are open. -/
def Completes (spacing : Spacing) (v : Value) (tree : Tree) : Prop :=
  ∀ (building : Building) (frames : List Frame) (depth : Nat) (rest : List Char),
    building.Begins frames → EndsNumber rest →
    building.read (v.writeAt spacing depth ++ rest) = (complete tree frames).read rest

variable {spacing : Spacing}

lemma read_writeItems {items : List Value} (hitems : ∀ item ∈ items, Completes spacing item item.tree)
    (tree : Tree) (done : List Tree) (frames : List Frame) (depth outer : Nat) (rest : List Char) :
    (complete tree (.array done :: frames)).read
        (writeItems spacing depth items ++ (spacing.newline outer ++ ']' :: rest))
      = (complete (.array ((tree :: done).reverse ++ items.map Value.tree)) frames).read rest := by
  induction items generalizing tree done with
  | nil =>
    rw [writeItems, List.nil_append, read_congr (tokens?_newline spacing outer _),
      read_of_step (tokens?_cons rfl rfl) rfl, List.map_nil, List.append_nil]
  | cons item items ih =>
    have hitem := hitems item List.mem_cons_self
    rw [writeItems, List.cons_append, read_of_step (tokens?_cons rfl rfl) rfl]
    simp only [List.append_assoc]
    rw [read_congr (tokens?_newline spacing depth _),
      hitem _ _ _ _ (begins_value _) (endsNumber_writeItems spacing depth outer items rest),
      ih fun other hother => hitems other (List.mem_cons_of_mem item hother)]
    simp

lemma read_writeMembers {members : List (String × Value)}
    (hmembers : ∀ member ∈ members, Completes spacing member.2 member.2.tree)
    (tree : Tree) (done : List (Option String × Tree)) (key : Option String) (frames : List Frame)
    (depth outer : Nat) (rest : List Char) :
    (complete tree (.object done key :: frames)).read
        (writeMembers spacing depth members ++ (spacing.newline outer ++ '\x7d' :: rest))
      = (complete (.object (((key, tree) :: done).reverse
          ++ members.map fun member => (some member.1, member.2.tree))) frames).read rest := by
  induction members generalizing tree done key with
  | nil =>
    rw [writeMembers, List.nil_append, read_congr (tokens?_newline spacing outer _),
      read_of_step (tokens?_cons rfl rfl) rfl, List.map_nil, List.append_nil]
  | cons member members ih =>
    obtain ⟨name, value⟩ := member
    have hvalue := hmembers (name, value) List.mem_cons_self
    rw [writeMembers, List.cons_append, read_of_step (tokens?_cons rfl rfl) rfl]
    simp only [List.append_assoc]
    rw [read_congr (tokens?_newline spacing depth _), read_of_step (tokens?_quote name _) rfl,
      read_of_step (tokens?_colon spacing _) rfl,
      hvalue _ _ _ _ (begins_value _) (endsNumber_writeMembers spacing depth outer members rest),
      ih fun other hother => hmembers other (List.mem_cons_of_mem _ hother)]
    simp

lemma completes_array {items : List Value}
    (hitems : ∀ item ∈ items, Completes spacing item item.tree) :
    Completes spacing (.array items) (Value.array items).tree := by
  intro building frames depth rest hbegins _
  cases items with
  | nil =>
    rw [Value.writeAt, Value.tree]
    show building.read ('[' :: ']' :: rest) = _
    rw [read_of_step (tokens?_cons rfl rfl) (hbegins .leftBracket (by simp)),
      read_of_step (tokens?_cons rfl rfl) rfl]
    rfl
  | cons item items =>
    have hitem := hitems item List.mem_cons_self
    rw [Value.writeAt, List.cons_append,
      read_of_step (tokens?_cons rfl rfl) (hbegins .leftBracket (by simp))]
    simp only [List.append_assoc, List.singleton_append]
    rw [read_congr (tokens?_newline spacing _ _),
      hitem _ _ _ _ (begins_firstItem frames) (endsNumber_writeItems spacing _ _ items rest),
      read_writeItems fun other hother => hitems other (List.mem_cons_of_mem item hother)]
    simp [Value.tree]

lemma completes_object {members : List (String × Value)}
    (hmembers : ∀ member ∈ members, Completes spacing member.2 member.2.tree) :
    Completes spacing (.object members) (Value.object members).tree := by
  intro building frames depth rest hbegins _
  cases members with
  | nil =>
    rw [Value.writeAt, Value.tree]
    show building.read ('\x7b' :: '\x7d' :: rest) = _
    rw [read_of_step (tokens?_cons rfl rfl) (hbegins .leftBrace (by simp)),
      read_of_step (tokens?_cons rfl rfl) rfl]
    rfl
  | cons member members =>
    obtain ⟨name, value⟩ := member
    have hvalue := hmembers (name, value) List.mem_cons_self
    rw [Value.writeAt, List.cons_append,
      read_of_step (tokens?_cons rfl rfl) (hbegins .leftBrace (by simp))]
    simp only [List.append_assoc, List.singleton_append]
    rw [read_congr (tokens?_newline spacing _ _), read_of_step (tokens?_quote name _) rfl,
      read_of_step (tokens?_colon spacing _) rfl,
      hvalue _ _ _ _ (begins_value _) (endsNumber_writeMembers spacing _ _ members rest),
      read_writeMembers fun other hother => hmembers other (List.mem_cons_of_mem _ hother)]
    simp [Value.tree]

/-- A number is completed as what its literal stands for. -/
lemma completes_integer (spacing : Spacing) (v : Int) :
    Completes spacing (.integer v) (.number (integerLiteral v).number?) := by
  intro building frames depth rest hbegins hrest
  rw [Value.writeAt]
  exact read_of_step (tokens?_integerText v hrest) (hbegins _ (by simp))

lemma completes_float (spacing : Spacing) (x : Binary64) :
    Completes spacing (.float x)
      (if x.isFinite then .number (floatLiteral x).number? else .null) := by
  intro building frames depth rest hbegins hrest
  rw [Value.writeAt]
  refine read_of_step (tokens?_floatText x hrest) ?_
  unfold floatToken
  split_ifs
  · exact hbegins _ (by simp)
  · exact hbegins _ (by simp)

end Building

/-! ### Numbers that come back -/

lemma Tree.ofText?_of_completes {spacing : Spacing} {v : Value} {tree : Tree}
    (h : Building.Completes spacing v tree) :
    ofText? (String.ofList (v.writeAt spacing 0)) = some tree := by
  have hread := h (.value []) [] 0 [] (Building.begins_value []) endsNumber_nil
  rw [List.append_nil, Building.read_nil, Building.read] at hread
  unfold ofText?
  rw [String.toList_ofList]
  simp only [Option.bind_eq_bind]
  rw [← Option.bind_assoc, hread]
  rfl

/-- A finite number is read back if it is the one to which its literal is rounded. -/
theorem readsBack_iff {x : Binary64} (hx : x.isFinite = true) :
    ReadsBack x ↔ (floatLiteral x).number? = some (.float x) := by
  have hread := Tree.ofText?_of_completes (Building.completes_float .compact x)
  rw [if_pos hx] at hread
  have htree : Package.tree? (Package.compact (.float x)) = some (.number (floatLiteral x).number?) :=
    hread
  rw [ReadsBack, htree, Option.some.injEq, Tree.number.injEq]

/-- Not every finite number is: 1.5569247167234435 is read as the number after it. -/
example : (floatLiteral ⟨4609690584746726527⟩).number? = some (.float ⟨4609690584746726528⟩) := by
  decide +kernel

lemma readsBack_half : ReadsBack ⟨0x3FE0000000000000⟩ := by
  have hread : (floatLiteral ⟨0x3FE0000000000000⟩).number? = some (.float ⟨0x3FE0000000000000⟩) := by
    decide +kernel
  exact (readsBack_iff rfl).mpr hread

/-! ### Values -/

/-- A written value is read as its tree, whatever brackets are open. -/
lemma Building.completes_tree (spacing : Spacing) {v : Value} (h : v.ComesBack) :
    Completes spacing v v.tree := by
  induction v using Value.induction with
  | null =>
    intro building frames depth rest hbegins _
    rw [Value.writeAt, Value.tree]
    exact read_of_step (tokens?_null rest) (hbegins _ (by simp))
  | boolean b =>
    intro building frames depth rest hbegins _
    rw [Value.writeAt, Value.tree]
    exact read_of_step (tokens?_boolean b rest) (hbegins _ (by simp))
  | integer v =>
    obtain ⟨hleast, hgreatest⟩ := Value.comesBack_integer.mp h
    rw [Value.tree, ← number?_integerLiteral hleast hgreatest]
    exact completes_integer spacing v
  | float x =>
    have hback := Value.comesBack_float.mp h
    have hcompletes := completes_float spacing x
    rw [Value.tree, floatTree]
    split_ifs at hcompletes ⊢ with hx
    · rwa [(readsBack_iff hx).mp (hback hx)] at hcompletes
    · exact hcompletes
  | string s =>
    intro building frames depth rest hbegins _
    rw [Value.writeAt, Value.tree]
    exact read_of_step (tokens?_quote s rest) (hbegins _ (by simp))
  | array items ih =>
    exact completes_array fun item hitem => ih item hitem (Value.comesBack_array.mp h item hitem)
  | object members ih =>
    exact completes_object fun member hmember =>
      ih member hmember (Value.comesBack_object.mp h member hmember)

/-- A value is read as its tree at any spacing. -/
lemma Tree.ofText?_writeAt (spacing : Spacing) {v : Value} (h : v.ComesBack) :
    ofText? (String.ofList (v.writeAt spacing 0)) = some v.tree :=
  ofText?_of_completes (Building.completes_tree spacing h)

end TypedFormat.Json
