/-
CodegenRun/Proofs/Import/Rendering.lean

The statement of an import tells the import:

    statement   import type { a, b } from './m.js';
    parts              |----head---|       |-path-|

No name holds a quote, so the first quote of a statement ends its head and starts the path
(`head_and_path_of_render_eq`), whatever the module holds.  The two are then read apart:

* the path gives the module, because an import extension never makes two paths the same
  (`ImportExtension.applyTo_inj`);
* the head gives whether the import is for types only, and the clause.  No name holds a blank, so
  a default import called `type` is not taken for the word before a clause for types
  (`isTypeOnly_and_clause_of_head_eq`);
* the clause gives the kind, again because no blank follows a brace or a star in a name
  (`kindOfClause_clause`), and the names.  No name holds a comma, so joined names come apart at
  the commas (`intercalate_inj`).
-/
import CodegenRun.Context.Basic
import CodegenRun.Import.Rendering

namespace CodegenRun

/-! ### Texts that come apart -/

section Apart

variable {α : Type} {x : α}

/-- A list is divided at the first occurrence of an element in one way only. -/
theorem append_cons_inj_of_not_mem {as bs rest other : List α} (ha : x ∉ as) (hb : x ∉ bs)
    (h : as ++ x :: rest = bs ++ x :: other) : as = bs ∧ rest = other := by
  induction as generalizing bs with
  | nil =>
    cases bs with
    | nil => exact ⟨rfl, (List.cons.inj h).2⟩
    | cons b bs =>
      obtain ⟨same, -⟩ := List.cons.inj h
      exact absurd (same ▸ List.mem_cons_self) hb
  | cons a as ih =>
    cases bs with
    | nil =>
      obtain ⟨same, -⟩ := List.cons.inj h
      exact absurd (same ▸ List.mem_cons_self) ha
    | cons b bs =>
      obtain ⟨rfl, later⟩ := List.cons.inj h
      rw [List.mem_cons, not_or] at ha hb
      obtain ⟨rfl, rfl⟩ := ih ha.2 hb.2 later
      exact ⟨rfl, rfl⟩

/-- Parts without the first element of the separator are read off what they are joined to. -/
theorem intercalate_inj {separator : List α} {as bs : List (List α)} (ha : ∀ a ∈ as, x ∉ a)
    (hb : ∀ b ∈ bs, x ∉ b) (as_ne : as ≠ []) (bs_ne : bs ≠ [])
    (h : (x :: separator).intercalate as = (x :: separator).intercalate bs) : as = bs := by
  induction as generalizing bs with
  | nil => exact absurd rfl as_ne
  | cons a as ih =>
    obtain ⟨b, bs, rfl⟩ := List.exists_cons_of_ne_nil bs_ne
    rw [List.forall_mem_cons] at ha hb
    rcases as with - | ⟨a', as⟩ <;> rcases bs with - | ⟨b', bs⟩
    · rw [List.intercalate_singleton, List.intercalate_singleton] at h
      rw [h]
    · -- the separator stands in the one text and not in the other
      rw [List.intercalate_singleton, List.intercalate_cons_cons] at h
      exact absurd (by simp [h]) ha.1
    · rw [List.intercalate_singleton, List.intercalate_cons_cons] at h
      exact absurd (by simp [← h]) hb.1
    · rw [List.intercalate_cons_cons, List.intercalate_cons_cons, List.append_assoc,
        List.append_assoc, List.cons_append, List.cons_append] at h
      obtain ⟨rfl, later⟩ := append_cons_inj_of_not_mem ha.1 hb.1 h
      have rest := List.append_cancel_left later
      rw [ih ha.2 hb.2 (List.cons_ne_nil _ _) (List.cons_ne_nil _ _) rest]

theorem not_mem_intercalate {separator : List α} {as : List (List α)} (free : x ∉ separator)
    (ha : ∀ a ∈ as, x ∉ a) : x ∉ separator.intercalate as := by
  induction as with
  | nil => exact List.not_mem_nil
  | cons a as ih =>
    rw [List.forall_mem_cons] at ha
    rcases as with - | ⟨a', as⟩
    · rw [List.intercalate_singleton]
      exact ha.1
    · rw [List.intercalate_cons_cons, List.mem_append, List.mem_append]
      rintro ((inPart | inSeparator) | later)
      · exact ha.1 inPart
      · exact free inSeparator
      · exact ih ha.2 later

end Apart

/-! ### Paths -/

namespace ImportExtension

theorem isRelative_append {path : String} (h : isRelative path) (s : String) :
    isRelative (path ++ s) := by
  rw [isRelative, beq_iff_eq] at h ⊢
  rw [String.toList_append, List.head?_append, h]
  rfl

/-- What is put behind relative paths. -/
def ending (extension : ImportExtension) : String :=
  (extension.suffix?.map fun suffix => "." ++ suffix).getD ""

theorem applyTo_of_isRelative (extension : ImportExtension) {path : String}
    (h : isRelative path = true) : extension.applyTo path = path ++ extension.ending := by
  rw [applyTo, ending]
  rcases extension.suffix? with - | suffix
  · exact String.append_empty.symm
  · simp only [h, if_true, Option.map_some, Option.getD_some, String.append_assoc]

/-- A path that is not relative is written as it is. -/
theorem applyTo_of_not_isRelative (extension : ImportExtension) {path : String}
    (h : isRelative path = false) : extension.applyTo path = path := by
  rw [applyTo]
  rcases extension.suffix? with - | suffix
  · rfl
  · simp only [h, Bool.false_eq_true, if_false]

/-- A path stays relative, or not. -/
theorem isRelative_applyTo (extension : ImportExtension) (path : String) :
    isRelative (extension.applyTo path) = isRelative path := by
  rcases relative : isRelative path
  · rw [applyTo_of_not_isRelative extension relative, relative]
  · rw [applyTo_of_isRelative extension relative]
    exact isRelative_append relative _

/-- An extension never makes two paths the same. -/
theorem applyTo_inj {extension : ImportExtension} {path other : String}
    (h : extension.applyTo path = extension.applyTo other) : path = other := by
  have alike : isRelative path = isRelative other := by
    rw [← isRelative_applyTo extension path, h, isRelative_applyTo]
  rcases relative : isRelative other
  · rwa [applyTo_of_not_isRelative extension (alike.trans relative),
      applyTo_of_not_isRelative extension relative] at h
  · rw [applyTo_of_isRelative extension (alike.trans relative),
      applyTo_of_isRelative extension relative] at h
    exact (String.append_left_inj _).1 h

end ImportExtension

namespace Import

/-! ### Parts of a statement -/

/-- No text that is bound holds a blank, a comma or a quote. -/
def IsPlain (i : Import) : Prop :=
  ∀ name ∈ i.bindings, ∀ c ∈ name.toList, c ≠ ' ' ∧ c ≠ ',' ∧ c ≠ '\''

theorem IsPlain.not_mem {i : Import} (plain : i.IsPlain) {name : String} (bound : name ∈ i.bindings)
    {c : Char} (reserved : c = ' ' ∨ c = ',' ∨ c = '\'') : c ∉ name.toList := by
  intro mem
  obtain ⟨blank, comma, quote⟩ := plain name bound c mem
  exact reserved.elim blank (Or.elim · comma quote)

/-- The word before the clause of an import for types only. -/
def marker (isTypeOnly : Bool) : List Char := if isTypeOnly then "type ".toList else []

/-- What stands before the word `from`. -/
def head (i : Import) : List Char := marker i.isTypeOnly ++ i.clause.toList

theorem toList_render (i : Import) (extension : ImportExtension) :
    (i.render extension).toList = "import ".toList ++ ((i.head ++ " from ".toList) ++
      '\'' :: ((extension.applyTo i.module).toList ++ "';".toList)) := by
  have marked : (if i.isTypeOnly then "type " else "").toList = marker i.isTypeOnly := by
    cases i.isTypeOnly <;> rfl
  have opened : " from '".toList = " from ".toList ++ ['\''] := rfl
  simp only [render, String.toList_append, marked, opened, head, List.append_assoc,
    List.cons_append, List.nil_append]

/-! ### Clauses -/

theorem toList_clause_named (bindings : NamedImport) : (clause (.named bindings)).toList =
    '\x7b' :: ' ' :: ([',', ' '].intercalate (bindings.names.map String.toList) ++ [' ', '\x7d']) := by
  simp [clause, String.toList_append, String.toList_intercalate]

theorem toList_clause_wildcard (name module : String) :
    (clause (.wildcard name module)).toList = '*' :: ' ' :: 'a' :: 's' :: ' ' :: name.toList := by
  simp [clause, String.toList_append]

/-- A clause that is a name has no blanks. -/
theorem blank_not_mem_clause_default {name module : String} {isTypeOnly : Bool}
    (plain : IsPlain (.default name module isTypeOnly)) :
    ' ' ∉ (clause (.default name module isTypeOnly)).toList := by
  show ' ' ∉ name.toList
  exact plain.not_mem (by simp [bindings]) (.inl rfl)

/-- The kind of import that a clause is of. -/
def kindOfClause : List Char → ImportKind
  | '\x7b' :: ' ' :: _ => .named
  | '*' :: ' ' :: _ => .wildcard
  | _ => .default

theorem kindOfClause_clause {i : Import} (plain : i.IsPlain) :
    kindOfClause i.clause.toList = i.kind := by
  cases i with
  | named bindings =>
    rw [toList_clause_named]
    rfl
  | default name module isTypeOnly =>
    -- a brace or a star may start a name, but no blank follows it
    have free := blank_not_mem_clause_default plain
    unfold kindOfClause
    split
    · rename_i chars
      simp [chars] at free
    · rename_i chars
      simp [chars] at free
    · rfl
  | wildcard name module =>
    rw [toList_clause_wildcard]
    rfl

/-- The names of a clause are read off it. -/
theorem names_of_clause_eq {a b : NamedImport} (ha : IsPlain (.named a)) (hb : IsPlain (.named b))
    (h : clause (.named a) = clause (.named b)) : a.names = b.names := by
  have free : ∀ i : NamedImport, IsPlain (.named i) →
      ∀ name ∈ i.names.map String.toList, ',' ∉ name := by
    intro i plain chars mem
    obtain ⟨name, bound, rfl⟩ := List.mem_map.1 mem
    exact plain.not_mem bound (.inr (.inl rfl))
  have inhabited : ∀ i : NamedImport, i.names.map String.toList ≠ [] := by
    intro i
    simpa using i.names_ne_nil
  have texts := congrArg String.toList h
  rw [toList_clause_named, toList_clause_named, List.cons.injEq, List.cons.injEq] at texts
  have joined := List.append_cancel_right texts.2.2
  have names := intercalate_inj (free a ha) (free b hb) (inhabited a) (inhabited b) joined
  exact (List.map_inj_right fun _ _ => String.toList_inj.1).1 names

/-- Imports of one module, both or neither for types only, are told apart by their clauses. -/
theorem eq_of_clause_eq {a b : Import} (ha : a.IsPlain) (hb : b.IsPlain)
    (clauses : a.clause = b.clause) (types : a.isTypeOnly = b.isTypeOnly)
    (modules : a.module = b.module) : a = b := by
  have kinds : a.kind = b.kind := by
    rw [← kindOfClause_clause ha, clauses, kindOfClause_clause hb]
  cases a with
  | named a =>
    cases b with
    | named b =>
      have names := names_of_clause_eq ha hb clauses
      obtain ⟨aNames, aModule, aTypes, aSome⟩ := a
      obtain ⟨bNames, bModule, bTypes, bSome⟩ := b
      obtain rfl : aNames = bNames := names
      obtain rfl : aModule = bModule := modules
      obtain rfl : aTypes = bTypes := types
      rfl
    | _ => cases kinds
  | default name module isTypeOnly =>
    cases b with
    | default name' module' isTypeOnly' =>
      obtain rfl : name = name' := clauses
      obtain rfl : module = module' := modules
      obtain rfl : isTypeOnly = isTypeOnly' := types
      rfl
    | _ => cases kinds
  | wildcard name module =>
    cases b with
    | wildcard name' module' =>
      obtain rfl : name = name' := (String.append_right_inj _).1 clauses
      obtain rfl : module = module' := modules
      rfl
    | _ => cases kinds

/-! ### Heads -/

/-- No clause can be taken for the word before a clause for types. -/
theorem clause_ne_marker_append {i : Import} (plain : i.IsPlain) (rest : List Char) :
    i.clause.toList ≠ marker true ++ rest := by
  intro h
  cases i with
  | named bindings =>
    rw [toList_clause_named] at h
    cases h
  | default name module isTypeOnly =>
    have blank : ' ' ∈ marker true ++ rest := by simp [marker]
    exact blank_not_mem_clause_default plain (h ▸ blank)
  | wildcard name module =>
    rw [toList_clause_wildcard] at h
    cases h

theorem isTypeOnly_and_clause_of_head_eq {a b : Import} (ha : a.IsPlain) (hb : b.IsPlain)
    (h : a.head = b.head) : a.isTypeOnly = b.isTypeOnly ∧ a.clause = b.clause := by
  rw [head, head] at h
  rcases aTypes : a.isTypeOnly <;> rcases bTypes : b.isTypeOnly <;> rw [aTypes, bTypes] at h
  · exact ⟨rfl, String.toList_inj.1 h⟩
  · exact absurd h (clause_ne_marker_append ha _)
  · exact absurd h.symm (clause_ne_marker_append hb _)
  · exact ⟨rfl, String.toList_inj.1 (List.append_cancel_left h)⟩

/-- No quote stands before that of the path. -/
theorem quote_not_mem_head {i : Import} (plain : i.IsPlain) : '\'' ∉ i.head := by
  have free : ∀ name ∈ i.bindings, '\'' ∉ name.toList :=
    fun name bound => plain.not_mem bound (.inr (.inr rfl))
  rw [head, List.mem_append, not_or]
  constructor
  · cases i.isTypeOnly <;> decide
  · cases i with
    | named bindings =>
      have joined : '\'' ∉ [',', ' '].intercalate (bindings.names.map String.toList) := by
        refine not_mem_intercalate (by decide) fun chars mem => ?_
        obtain ⟨name, bound, rfl⟩ := List.mem_map.1 mem
        exact free name bound
      simp [toList_clause_named, joined]
    | default name module isTypeOnly => exact free name (by simp [bindings])
    | wildcard name module =>
      have bound := free name (by simp [bindings])
      simp [toList_clause_wildcard, bound]

theorem head_and_path_of_render_eq {a b : Import} (ha : a.IsPlain) (hb : b.IsPlain)
    {extension : ImportExtension} (h : a.render extension = b.render extension) :
    a.head = b.head ∧ extension.applyTo a.module = extension.applyTo b.module := by
  have free : ∀ i : Import, i.IsPlain → '\'' ∉ i.head ++ " from ".toList := by
    intro i plain quote
    rcases List.mem_append.1 quote with inHead | inWord
    · exact quote_not_mem_head plain inHead
    · exact absurd inWord (by decide)
  have texts := congrArg String.toList h
  rw [toList_render, toList_render] at texts
  obtain ⟨heads, paths⟩ :=
    append_cons_inj_of_not_mem (free a ha) (free b hb) (List.append_cancel_left texts)
  exact ⟨List.append_cancel_right heads, String.toList_inj.1 (List.append_cancel_right paths)⟩

/-- **Rendered statements are unambiguous.**  Under the import extension of any context, imports
whose names hold no blank, comma or quote are rendered alike only if they are the same. -/
theorem render_eq_render_iff (c : Context) {a b : Import} (ha : a.IsPlain) (hb : b.IsPlain) :
    a.render c.config.importExtension = b.render c.config.importExtension ↔ a = b := by
  constructor
  · intro h
    obtain ⟨heads, paths⟩ := head_and_path_of_render_eq ha hb h
    obtain ⟨types, clauses⟩ := isTypeOnly_and_clause_of_head_eq ha hb heads
    exact eq_of_clause_eq ha hb clauses types (ImportExtension.applyTo_inj paths)
  · rintro rfl
    rfl

/-- A default import called `type`, and one for types only that is called `from`. -/
theorem render_type_ne_render_typeOnly :
    let c : Context := ⟨.ofPath "out", ⟨{}⟩, { importExtension := .ts }⟩
    let a : Import := .default "type" "./a'b" false
    let b : Import := .default "from" "./a'b" true
    a.IsPlain ∧ b.IsPlain ∧ a.render .ts = "import type from './a'b.ts';" ∧
      b.render .ts = "import type from from './a'b.ts';" ∧
      (a.render c.config.importExtension = b.render c.config.importExtension ↔ a = b) := by
  intro c a b
  have ha : a.IsPlain := by simp [a, IsPlain, bindings]
  have hb : b.IsPlain := by simp [b, IsPlain, bindings]
  exact ⟨ha, hb, by decide, by decide, render_eq_render_iff c ha hb⟩

end Import

end CodegenRun
