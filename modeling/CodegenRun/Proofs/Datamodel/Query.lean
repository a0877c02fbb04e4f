/-
CodegenRun/Proofs/Datamodel/Query.lean

A question to a datamodel is answered from what it names, and from nothing else.

    models    [ Log,  User,  Post,  User ]
                       |
                       fields  [ id,  area,  role,  posts ]

A search for `User` ends at the first model of the name (`FirstNamed`), so it sees neither models
of other names nor the second `User`.  Of the model that it finds, the answer tells the columns (here
`id` and `role`) and the relations (`posts`).  These are filters of the fields by kind, and between
them they pass over one kind only: they divide the supported fields (`Model.Divides`), and no other
two lists do (`Model.Divides.eq_fields`).  So the first model of the name and its division tell the
answer (`Datamodel.answer_eq_iff`).

An edit that keeps both is overlooked (`Query.Overlooks`).  The one thing that an insertion must not
do is to put something of the name in front of the first one that has it (`find?_insert`), and
another order must not bring a later one to the front, which it cannot where names are not repeated
(`find?_named_of_perm`).
-/
import CodegenRun.Datamodel.Query
import Mathlib.Data.List.Find
import Mathlib.Data.List.Nodup
import Mathlib.Logic.Relation

namespace CodegenRun

/-! ### The first of a name -/

section Named

variable {α : Type} {nameOf : α → String} {name : String}

/-- Of the things in a list, `x` is the first one of the name. -/
def FirstNamed (nameOf : α → String) (name : String) (xs : List α) (x : α) : Prop :=
  ∃ before after, xs = before ++ x :: after ∧ nameOf x = name ∧
    ∀ other ∈ before, nameOf other ≠ name

theorem find?_named_eq_none_iff {xs : List α} :
    xs.find? (fun x => nameOf x = name) = none ↔ ∀ x ∈ xs, nameOf x ≠ name := by
  simp only [List.find?_eq_none, decide_eq_true_eq, ne_eq]

theorem find?_named_eq_some_iff {xs : List α} {x : α} :
    xs.find? (fun x => nameOf x = name) = some x ↔ FirstNamed nameOf name xs x := by
  rw [List.find?_eq_some_iff_append, FirstNamed]
  constructor
  · rintro ⟨named, before, after, rfl, others⟩
    exact ⟨before, after, rfl, of_decide_eq_true named, by simpa using others⟩
  · rintro ⟨before, after, rfl, named, others⟩
    exact ⟨decide_eq_true named, before, after, rfl, by simpa using others⟩

/-- What is found stays the same if whatever is put in and could be found comes behind something
that could be found already. -/
theorem find?_insert {p : α → Bool} {front new : List α} (back : List α)
    (behind : ∀ x ∈ new, p x = true → ∃ first ∈ front, p first = true) :
    (front ++ new ++ back).find? p = (front ++ back).find? p := by
  rw [List.find?_append, List.find?_append, List.find?_append]
  rcases found : front.find? p with - | first
  · have absent : new.find? p = none := by
      rw [List.find?_eq_none] at found ⊢
      intro x mem could
      obtain ⟨first, before, earlier⟩ := behind x mem could
      exact found first before earlier
    rw [absent, Option.or_none]
  · -- the search has ended before it gets to `new`
    rfl

/-- A thing may be replaced by one that is found alike and of which the same is told. -/
theorem map_find?_replace {β : Type} {p : α → Bool} {told : α → β} {x other : α}
    (before after : List α) (alike : p other = p x) (same : told other = told x) :
    ((before ++ other :: after).find? p).map told = ((before ++ x :: after).find? p).map told := by
  rw [List.find?_append, List.find?_append]
  rcases before.find? p with - | found
  · rw [Option.none_or, Option.none_or, List.find?_cons, List.find?_cons, alike]
    split
    · exact congrArg some same
    · rfl
  · rfl

/-- Where no name is repeated, the order does not matter to a search for a name. -/
theorem find?_named_of_perm {part other : List α} (distinct : (part.map nameOf).Nodup)
    (perm : part.Perm other) :
    other.find? (fun x => nameOf x = name) = part.find? (fun x => nameOf x = name) := by
  refine (List.find?_eq_find?_of_perm perm ?_).symm
  rintro x ⟨memX, namedX⟩ y ⟨memY, namedY⟩
  have same : nameOf x = nameOf y :=
    (of_decide_eq_true namedX).trans (of_decide_eq_true namedY).symm
  exact List.inj_on_of_nodup_map distinct memX memY same

/-- An edit of a list that leaves the first thing of the name what it was. -/
inductive NamedEdit (nameOf : α → String) (name : String) : List α → List α → Prop
  /-- Things of other names are put in, anywhere. -/
  | others (front new back : List α) : (∀ x ∈ new, nameOf x ≠ name) →
      NamedEdit nameOf name (front ++ back) (front ++ new ++ back)
  /-- Things are put in behind the first ones of their names. -/
  | behindFirst (front new back : List α) : (∀ x ∈ new, ∃ first ∈ front, nameOf first = nameOf x) →
      NamedEdit nameOf name (front ++ back) (front ++ new ++ back)
  /-- A part that repeats no name, which may be the whole list, is put in another order. -/
  | reordered (front part other back : List α) : (part.map nameOf).Nodup → part.Perm other →
      NamedEdit nameOf name (front ++ part ++ back) (front ++ other ++ back)

theorem NamedEdit.find?_eq {xs ys : List α} (edit : NamedEdit nameOf name xs ys) :
    ys.find? (fun x => nameOf x = name) = xs.find? (fun x => nameOf x = name) := by
  cases edit with
  | others front new back others =>
    refine find?_insert back fun x mem named => ?_
    exact absurd (of_decide_eq_true named) (others x mem)
  | behindFirst front new back earlier =>
    refine find?_insert back fun x mem named => ?_
    obtain ⟨first, before, same⟩ := earlier x mem
    exact ⟨first, before, decide_eq_true (same.trans (of_decide_eq_true named))⟩
  | reordered front part other back distinct perm =>
    rw [List.find?_append, List.find?_append, List.find?_append, List.find?_append,
      find?_named_of_perm distinct perm]

end Named

/-! ### Columns and relations -/

theorem filter_insert {α : Type} {p : α → Bool} (front back : List α) {new : List α}
    (refused : ∀ x ∈ new, p x = false) :
    (front ++ new ++ back).filter p = (front ++ back).filter p := by
  have dropped : new.filter p = [] :=
    List.filter_eq_nil_iff.2 fun x mem => Bool.eq_false_iff.1 (refused x mem)
  rw [List.filter_append, List.filter_append, dropped, List.append_nil, List.filter_append]

namespace Model

/-- The columns and the relations are selections of the fields of the model, each in order.  They
have no field in common, and together they hold every supported field as often as the model
does. -/
structure Divides (m : Model) (columns relations : List Field) : Prop where
  columns_sublist : columns.Sublist m.fields
  relations_sublist : relations.Sublist m.fields
  disjoint : columns.Disjoint relations
  supported : (columns ++ relations).Perm (m.fields.filter fun f => f.kind ≠ .unsupported)
  columns_kind : ∀ f ∈ columns, f.kind = .scalar ∨ f.kind = .enum
  relations_kind : ∀ f ∈ relations, f.kind = .object

theorem columnFields_append_relationFields_perm (m : Model) :
    (m.columnFields ++ m.relationFields).Perm
      (m.fields.filter fun f => f.kind ≠ .unsupported) := by
  have parts := List.filter_append_perm (fun f => decide (f.kind = .scalar ∨ f.kind = .enum))
    (m.fields.filter fun f => f.kind ≠ .unsupported)
  rw [List.filter_filter, List.filter_filter] at parts
  -- kind by kind: what is supported and no column is a relation
  have columns : m.columnFields = m.fields.filter fun f =>
      decide (f.kind = .scalar ∨ f.kind = .enum) && decide (f.kind ≠ .unsupported) := by
    refine List.filter_congr fun f _ => ?_
    cases f.kind <;> rfl
  have relations : m.relationFields = m.fields.filter fun f =>
      (!decide (f.kind = .scalar ∨ f.kind = .enum)) && decide (f.kind ≠ .unsupported) := by
    refine List.filter_congr fun f _ => ?_
    cases f.kind <;> rfl
  rwa [columns, relations]

theorem kind_of_mem_columnFields {m : Model} {f : Field} (h : f ∈ m.columnFields) :
    f.kind = .scalar ∨ f.kind = .enum :=
  of_decide_eq_true (List.mem_filter.1 h).2

theorem kind_of_mem_relationFields {m : Model} {f : Field} (h : f ∈ m.relationFields) :
    f.kind = .object :=
  of_decide_eq_true (List.mem_filter.1 h).2

theorem divides_fields (m : Model) : m.Divides m.columnFields m.relationFields where
  columns_sublist := List.filter_sublist
  relations_sublist := List.filter_sublist
  disjoint f column relation := by
    have object := kind_of_mem_relationFields relation
    rcases kind_of_mem_columnFields column with scalar | enum
    · rw [object] at scalar
      cases scalar
    · rw [object] at enum
      cases enum
  supported := m.columnFields_append_relationFields_perm
  columns_kind _ := kind_of_mem_columnFields
  relations_kind _ := kind_of_mem_relationFields

/-- There is one division.  Each of its lists is a selection from the columns or from the
relations, and if one of them left out a field, the two would be too short for all of them. -/
theorem Divides.eq_fields {m : Model} {columns relations : List Field}
    (h : m.Divides columns relations) :
    columns = m.columnFields ∧ relations = m.relationFields := by
  have someColumns : columns.Sublist m.columnFields := by
    have kept := h.columns_sublist.filter fun f => decide (f.kind = .scalar ∨ f.kind = .enum)
    rwa [List.filter_eq_self.2 fun f mem => decide_eq_true (h.columns_kind f mem)] at kept
  have someRelations : relations.Sublist m.relationFields := by
    have kept := h.relations_sublist.filter fun f => decide (f.kind = .object)
    rwa [List.filter_eq_self.2 fun f mem => decide_eq_true (h.relations_kind f mem)] at kept
  have lengths : columns.length + relations.length =
      m.columnFields.length + m.relationFields.length := by
    have all := (h.supported.trans m.columnFields_append_relationFields_perm.symm).length_eq
    rwa [List.length_append, List.length_append] at all
  have fewColumns := someColumns.length_le
  have fewRelations := someRelations.length_le
  exact ⟨someColumns.eq_of_length (by omega), someRelations.eq_of_length (by omega)⟩

/-- Fields of a kind that is not supported are told nowhere. -/
theorem tableNames_insert_unsupported {m : Model} {front new back : List Field}
    (fields : m.fields = front ++ back) (unsupported : ∀ f ∈ new, f.kind = .unsupported) :
    tableNames { m with fields := front ++ new ++ back } = m.tableNames := by
  have columns : columnFields { m with fields := front ++ new ++ back } = m.columnFields := by
    rw [columnFields, columnFields, fields]
    refine filter_insert front back fun f mem => ?_
    rw [unsupported f mem]
    rfl
  have relations :
      relationFields { m with fields := front ++ new ++ back } = m.relationFields := by
    rw [relationFields, relationFields, fields]
    refine filter_insert front back fun f mem => ?_
    rw [unsupported f mem]
    rfl
  rw [tableNames, tableNames, columns, relations]
  rfl

end Model

/-! ### Answers -/

namespace Datamodel

/-- What there is to answer, told by the first model or enum of the name. -/
inductive Answers (d : Datamodel) : Query → QueryAnswer → Prop
  | noModel {name : String} : (∀ m ∈ d.models, m.name ≠ name) →
      Answers d (.model name) (.table none)
  | model {name : String} {m : Model} {columns relations : List Field} :
      FirstNamed Model.name name d.models m → m.Divides columns relations →
      Answers d (.model name) (.table (some {
        physical := m.dbName.getD m.name
        columns := columns.map fun f => (f.name, f.dbName.getD f.name)
        relations := relations.map fun f => (f.name, f.dbName.getD f.name) }))
  | noEnum {name : String} : (∀ e ∈ d.enums, e.name ≠ name) →
      Answers d (.enum name) (.enum none)
  | enum {name : String} {e : EnumType} : FirstNamed EnumType.name name d.enums e →
      Answers d (.enum name) (.enum (some {
        declared := e.dbName
        labels := e.values.map fun v => v.dbName.getD v.name }))

theorem answers_answer (d : Datamodel) (q : Query) : d.Answers q (d.answer q) := by
  cases q with
  | model name =>
    rcases found : d.model? name with - | m
    · rw [answer, found]
      exact .noModel (find?_named_eq_none_iff.1 found)
    · rw [answer, found]
      exact .model (find?_named_eq_some_iff.1 found) m.divides_fields
  | enum name =>
    rcases found : d.enum? name with - | e
    · rw [answer, found]
      exact .noEnum (find?_named_eq_none_iff.1 found)
    · rw [answer, found]
      exact .enum (find?_named_eq_some_iff.1 found)

theorem Answers.eq_answer {d : Datamodel} {q : Query} {a : QueryAnswer} (h : d.Answers q a) :
    d.answer q = a := by
  cases h with
  | noModel others => rw [answer, model?, find?_named_eq_none_iff.2 others, Option.map_none]
  | model first divides =>
    obtain ⟨rfl, rfl⟩ := divides.eq_fields
    rw [answer, model?, find?_named_eq_some_iff.2 first]
    rfl
  | noEnum others => rw [answer, enum?, find?_named_eq_none_iff.2 others, Option.map_none]
  | enum first =>
    rw [answer, enum?, find?_named_eq_some_iff.2 first]
    rfl

theorem answer_eq_iff {d : Datamodel} {q : Query} {a : QueryAnswer} :
    d.answer q = a ↔ d.Answers q a :=
  ⟨fun same => same ▸ d.answers_answer q, Answers.eq_answer⟩

theorem answer_model_eq_none_iff {d : Datamodel} {name : String} :
    d.answer (.model name) = .table none ↔ ∀ m ∈ d.models, m.name ≠ name := by
  rw [answer_eq_iff]
  constructor
  · rintro (others | - | - | -)
    exact others
  · exact .noModel

end Datamodel

/-! ### Edits -/

/-- An edit of a datamodel that is no matter to the question. -/
inductive Query.Overlooks : Query → Datamodel → Datamodel → Prop
  | models {name : String} {models edited : List Model} {enums : List EnumType} :
      NamedEdit Model.name name models edited →
      Overlooks (.model name) ⟨models, enums⟩ ⟨edited, enums⟩
  | enums {name : String} {models : List Model} {enums edited : List EnumType} :
      NamedEdit EnumType.name name enums edited →
      Overlooks (.enum name) ⟨models, enums⟩ ⟨models, edited⟩
  /-- A question about a model overlooks all that is done to the enums. -/
  | enumsAside {name : String} {models : List Model} {enums edited : List EnumType} :
      Overlooks (.model name) ⟨models, enums⟩ ⟨models, edited⟩
  /-- A question about an enum overlooks all that is done to the models. -/
  | modelsAside {name : String} {models edited : List Model} {enums : List EnumType} :
      Overlooks (.enum name) ⟨models, enums⟩ ⟨edited, enums⟩
  /-- Unsupported fields are put into a model, anywhere; it may be the one that is named. -/
  | unsupportedFields {q : Query} (before : List Model) (m : Model) (after : List Model)
      {enums : List EnumType} (front new back : List Field) : m.fields = front ++ back →
      (∀ f ∈ new, f.kind = .unsupported) →
      Overlooks q ⟨before ++ m :: after, enums⟩
        ⟨before ++ { m with fields := front ++ new ++ back } :: after, enums⟩

namespace Datamodel

/-- One edit. -/
theorem answer_of_overlooks {q : Query} {d edited : Datamodel} (h : q.Overlooks d edited) :
    edited.answer q = d.answer q := by
  cases h with
  | models edit => rw [answer, answer, model?, model?, edit.find?_eq]
  | enums edit => rw [answer, answer, enum?, enum?, edit.find?_eq]
  | enumsAside => rfl
  | modelsAside => rfl
  | unsupportedFields before m after front new back fields unsupported =>
    cases q with
    | model name =>
      -- the edited model has the name that it had, whether the search ends at it or not
      have told := Model.tableNames_insert_unsupported fields unsupported
      exact congrArg QueryAnswer.table (map_find?_replace before after rfl told)
    | enum name => rfl

/-- Any number of edits, by induction. -/
theorem answer_of_edits {q : Query} {d edited : Datamodel}
    (edits : Relation.ReflTransGen q.Overlooks d edited) : edited.answer q = d.answer q := by
  induction edits with
  | refl => rfl
  | tail _ edit ih => exact (answer_of_overlooks edit).trans ih

/-- **Questions are answered from what they name.**  The answer about a model is empty exactly if no
model has the name.  Otherwise its columns and relations are those into which the supported fields
of the first such model are divided, each with its database name or else its own name; likewise the
labels of an enum are those of the first one of the name.  An answer stays the same under any edits
that its question overlooks: things of other names that are put in anywhere, things that are put in
behind one of their name, another order of things with different names, and unsupported fields. -/
theorem answer_from_named :
    (∀ (d : Datamodel) (name : String),
      d.answer (.model name) = .table none ↔ ∀ m ∈ d.models, m.name ≠ name) ∧
    (∀ (d : Datamodel) (q : Query) (a : QueryAnswer), d.answer q = a ↔ d.Answers q a) ∧
    ∀ (q : Query) (d edited : Datamodel), Relation.ReflTransGen q.Overlooks d edited →
      edited.answer q = d.answer q :=
  ⟨fun _ _ => answer_model_eq_none_iff, fun _ _ _ => answer_eq_iff, fun _ _ _ => answer_of_edits⟩

def idField : Field := { name := "id", kind := .scalar, typeName := "Int" }

def roleField : Field :=
  { name := "role", dbName := some "user_role", kind := .enum, typeName := "Role" }

def postsField : Field := { name := "posts", kind := .object, typeName := "Post" }

/-- A model with a field of each kind that is supported. -/
def userModel : Model :=
  { name := "User", dbName := some "users", fields := [idField, roleField, postsField] }

def postModel : Model := { name := "Post", fields := [idField] }

def blog : Datamodel where
  models := [userModel, postModel]
  enums := [{ name := "Role", values := [{ name := "admin" }] }]

/-- A model in front, another `User` behind the first one, the models in another order, a field
that is not supported, and no enums any more. -/
theorem answer_from_named_blog :
    let logModel : Model := { name := "Log", fields := [] }
    let otherUser : Model := { name := "User", fields := [postsField] }
    let area : Field := { name := "area", kind := .unsupported, typeName := "polygon" }
    let edited : Datamodel := ⟨[postModel,
      { userModel with fields := [idField, area, roleField, postsField] }, logModel, otherUser], []⟩
    Relation.ReflTransGen (Query.model "User").Overlooks blog edited ∧
      edited.answer (.model "User") = blog.answer (.model "User") ∧
      blog.answer (.model "User") = .table (some {
        physical := "users"
        columns := [("id", "id"), ("role", "user_role")]
        relations := [("posts", "posts")] }) := by
  intro logModel otherUser area edited
  have inserted : (Query.model "User").Overlooks blog
      ⟨[logModel, userModel, postModel], blog.enums⟩ :=
    .models (.others [] [logModel] [userModel, postModel] (by decide))
  have repeated : (Query.model "User").Overlooks ⟨[logModel, userModel, postModel], blog.enums⟩
      ⟨[logModel, userModel, postModel, otherUser], blog.enums⟩ :=
    .models (.behindFirst [logModel, userModel, postModel] [otherUser] [] (by decide))
  have reordered : (Query.model "User").Overlooks
      ⟨[logModel, userModel, postModel, otherUser], blog.enums⟩
      ⟨[postModel, userModel, logModel, otherUser], blog.enums⟩ :=
    .models (.reordered [] [logModel, userModel, postModel] [postModel, userModel, logModel]
      [otherUser] (by decide) (by decide))
  have extended : (Query.model "User").Overlooks
      ⟨[postModel, userModel, logModel, otherUser], blog.enums⟩ ⟨edited.models, blog.enums⟩ :=
    .unsupportedFields [postModel] userModel [logModel, otherUser] [idField] [area]
      [roleField, postsField] rfl (by decide)
  have dropped : (Query.model "User").Overlooks ⟨edited.models, blog.enums⟩ edited := .enumsAside
  have edits : Relation.ReflTransGen (Query.model "User").Overlooks blog edited :=
    ((((Relation.ReflTransGen.single inserted).tail repeated).tail reordered).tail extended).tail
      dropped
  exact ⟨edits, answer_from_named.2.2 _ _ _ edits, rfl⟩

end Datamodel

end CodegenRun
