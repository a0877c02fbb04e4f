/-
CodegenRun/Proofs/Json/Writing.lean

The texts that write a value.

`v.Writes text` says that the text is the value, with blanks wherever a layout may put them: in
front of an item, of a member and of a member's value, and in front of a closing bracket.  Both
written forms are such texts (`writes_compact`, `writes_pretty`).  The relation is about values
whose numbers are integers of 64 bits (`IsIntegral`); it says nothing of floating-point numbers.
-/
import CodegenRun.Json.Text
import CodegenRun.Json.Reader.Value
import Mathlib.Algebra.Ring.Int.Defs

namespace CodegenRun

namespace Json

/-- Neither an array nor an object. -/
def isScalar : Json → Bool
  | .arr _ | .obj _ => false
  | _ => true

mutual

/-- The numbers in the value are integers of 64 bits, with or without a sign. -/
def IsIntegral : Json → Prop
  | .int n => -2 ^ 63 ≤ n ∧ n < 2 ^ 64
  | .float _ => False
  | .arr items => AreIntegral items
  | .obj members => MembersAreIntegral members
  | _ => True

def AreIntegral : List Json → Prop
  | [] => True
  | v :: rest => v.IsIntegral ∧ AreIntegral rest

def MembersAreIntegral : List (String × Json) → Prop
  | [] => True
  | (_, v) :: rest => v.IsIntegral ∧ MembersAreIntegral rest

end

/-- Nothing but blanks. -/
def AreBlank (gap : List Char) : Prop := ∀ c ∈ gap, Reader.isBlank c = true

mutual

/-- `v.Writes text`: the text is the value, in some layout. -/
inductive Writes : Json → List Char → Prop
  | scalar {v : Json} : v.isScalar = true → v.IsIntegral → Writes v v.scalarChars
  | emptyArr : Writes (.arr []) ['[', ']']
  | arr {items : List Json} {text gap : List Char} : WritesItems items text → AreBlank gap →
      Writes (.arr items) ('[' :: text ++ (gap ++ [']']))
  | emptyObj : Writes (.obj []) ['\x7b', '\x7d']
  | obj {members : List (String × Json)} {text gap : List Char} : WritesMembers members text →
      AreBlank gap → Writes (.obj members) ('\x7b' :: text ++ (gap ++ ['\x7d']))

/-- The text is that of one or more items with commas between them. -/
inductive WritesItems : List Json → List Char → Prop
  | last {v : Json} {gap text : List Char} : AreBlank gap → Writes v text →
      WritesItems [v] (gap ++ text)
  | more {v : Json} {items : List Json} {gap text texts : List Char} : AreBlank gap →
      Writes v text → WritesItems items texts →
      WritesItems (v :: items) (gap ++ text ++ ',' :: texts)

/-- The text is that of one or more members with commas between them. -/
inductive WritesMembers : List (String × Json) → List Char → Prop
  | last {key : String} {v : Json} {gap space text : List Char} : AreBlank gap →
      AreBlank space → Writes v text →
      WritesMembers [(key, v)] (gap ++ quote key ++ ':' :: (space ++ text))
  | more {key : String} {v : Json} {members : List (String × Json)}
      {gap space text texts : List Char} : AreBlank gap → AreBlank space → Writes v text →
      WritesMembers members texts →
      WritesMembers ((key, v) :: members)
        (gap ++ quote key ++ ':' :: (space ++ text) ++ ',' :: texts)

end

/-! ### The compact form -/

theorem areBlank_nil : AreBlank [] := fun _ mem => by cases mem

mutual

theorem writes_compactChars : (v : Json) → v.IsIntegral → Writes v v.compactChars
  | .null, h | .bool _, h | .int _, h | .float _, h | .str _, h => .scalar rfl h
  | .arr [], _ => .emptyArr
  | .arr (v :: rest), h => .arr (writesItems_compactItems (v :: rest) nofun h) areBlank_nil
  | .obj [], _ => .emptyObj
  | .obj (m :: rest), h => .obj (writesMembers_compactMembers (m :: rest) nofun h) areBlank_nil

theorem writesItems_compactItems : (items : List Json) → items ≠ [] → AreIntegral items →
    WritesItems items (compactItems items)
  | [], nonempty, _ => absurd rfl nonempty
  | [v], _, h => .last areBlank_nil (writes_compactChars v h.1)
  | v :: w :: rest, _, h => .more areBlank_nil (writes_compactChars v h.1)
    (writesItems_compactItems (w :: rest) nofun h.2)

theorem writesMembers_compactMembers : (members : List (String × Json)) → members ≠ [] →
    MembersAreIntegral members → WritesMembers members (compactMembers members)
  | [], nonempty, _ => absurd rfl nonempty
  | [(_, v)], _, h => .last areBlank_nil areBlank_nil (writes_compactChars v h.1)
  | (_, v) :: m :: rest, _, h => .more areBlank_nil areBlank_nil (writes_compactChars v h.1)
    (writesMembers_compactMembers (m :: rest) nofun h.2)

end

/-! ### The pretty form -/

theorem areBlank_lineBreak (level : Nat) : AreBlank (lineBreak level) := by
  intro c mem
  rcases List.mem_cons.1 mem with rfl | mem
  · rfl
  · rw [List.eq_of_mem_replicate mem]
    rfl

theorem areBlank_space : AreBlank [' '] := by
  intro c mem
  rw [List.mem_singleton.1 mem]
  rfl

mutual

theorem writes_prettyChars : (level : Nat) → (v : Json) → v.IsIntegral →
    Writes v (v.prettyChars level)
  | _, .null, h | _, .bool _, h | _, .int _, h | _, .float _, h | _, .str _, h => .scalar rfl h
  | _, .arr [], _ => .emptyArr
  | level, .arr (v :: rest), h => by
    rw [prettyChars, List.append_assoc]
    exact .arr (writesItems_prettyItems (level + 1) (v :: rest) nofun h)
      (areBlank_lineBreak level)
  | _, .obj [], _ => .emptyObj
  | level, .obj (m :: rest), h => by
    rw [prettyChars, List.append_assoc]
    exact .obj (writesMembers_prettyMembers (level + 1) (m :: rest) nofun h)
      (areBlank_lineBreak level)

theorem writesItems_prettyItems : (level : Nat) → (items : List Json) → items ≠ [] →
    AreIntegral items → WritesItems items (prettyItems level items)
  | _, [], nonempty, _ => absurd rfl nonempty
  | level, [v], _, h => .last (areBlank_lineBreak level) (writes_prettyChars level v h.1)
  | level, v :: w :: rest, _, h =>
    .more (areBlank_lineBreak level) (writes_prettyChars level v h.1)
      (writesItems_prettyItems level (w :: rest) nofun h.2)

theorem writesMembers_prettyMembers : (level : Nat) → (members : List (String × Json)) →
    members ≠ [] → MembersAreIntegral members →
    WritesMembers members (prettyMembers level members)
  | _, [], nonempty, _ => absurd rfl nonempty
  | level, [(_, v)], _, h =>
    .last (areBlank_lineBreak level) areBlank_space (writes_prettyChars level v h.1)
  | level, (_, v) :: m :: rest, _, h =>
    .more (areBlank_lineBreak level) areBlank_space (writes_prettyChars level v h.1)
      (writesMembers_prettyMembers level (m :: rest) nofun h.2)

end

end Json

end CodegenRun
