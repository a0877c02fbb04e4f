/-
CodegenRun/Proofs/Log/FilterText.lean

Filters as they are usually written.

A level, or a target with an equals sign and a level behind it, spells a directive
(`Directive.Spells`), and such directives with commas between them are read as the list of them
(`Filter.ofText?_of_spells`).  Neither sign occurs within a target or a level, so the first equals
sign ends the target, and the parts between commas are the directives.
-/
import CodegenRun.Log.Filter.Text
import Mathlib.Data.List.DropRight

namespace CodegenRun

/-- The words for limits: `off`, or the last level that is written. -/
def Level.limitWords : List (String × Option Level) := [("off", none), ("error", some .error),
  ("warn", some .warn), ("info", some .info), ("debug", some .debug), ("trace", some .trace)]

namespace Directive

/-- The characters of the targets of programs. -/
def isTargetChar (c : Char) : Bool := c.isAlphanum || c = '_' || c = ':'

/-- The text of a directive for all records up to a level, or for those of a target. -/
inductive Spells : List Char → Directive → Prop
  | level {word : String} {limit? : Option Level} : (word, limit?) ∈ Level.limitWords →
      Spells word.toList ⟨"", none, limit?⟩
  | target {target : List Char} {word : String} {limit? : Option Level} : target ≠ [] →
      (∀ c ∈ target, isTargetChar c = true) → (word, limit?) ∈ Level.limitWords →
      Spells (target ++ '=' :: word.toList) ⟨String.ofList target, none, limit?⟩

/-! ### Characters -/

/-- The character separates no directives and no parts of one, and is no white space. -/
def isPlainChar (c : Char) : Bool := !",=[".toList.contains c && !Text.isWhiteSpace c

/-- The characters of targets are among the first 128. -/
theorem toNat_lt_of_isTargetChar {c : Char} (h : isTargetChar c = true) : c.toNat < 0x80 := by
  rw [isTargetChar, Bool.or_eq_true, Bool.or_eq_true, decide_eq_true_eq, decide_eq_true_eq] at h
  rcases h with (letterOrDigit | rfl) | rfl
  · -- A range of characters ends where its last one does.
    have bounded : ∀ last : Char, last.toNat < 0x80 → c.val ≤ last.val → c.toNat < 0x80 :=
      fun _ ascii le => Nat.lt_of_le_of_lt (UInt32.le_iff_toNat_le.1 le) ascii
    rcases Bool.or_eq_true_iff.1 letterOrDigit with letter | digit
    · rcases Bool.or_eq_true_iff.1 letter with upper | lower
      · exact bounded 'Z' (by decide) (of_decide_eq_true upper).2
      · exact bounded 'z' (by decide) (of_decide_eq_true (Bool.and_eq_true_iff.1 lower).2)
    · exact bounded '9' (by decide) (of_decide_eq_true (Bool.and_eq_true_iff.1 digit).2)
  · decide
  · decide

/-- So what is said of them can be checked one by one. -/
theorem of_isTargetChar {p : Char → Prop}
    (ascii : ∀ n < 0x80, isTargetChar (Char.ofNat n) = true → p (Char.ofNat n))
    {c : Char} (h : isTargetChar c = true) : p c := by
  have this := ascii c.toNat (toNat_lt_of_isTargetChar h)
  rw [Char.ofNat_toNat] at this
  exact this h

/-- A character of a target is plain, and a directive may start with it. -/
theorem isPlainChar_of_isTargetChar {c : Char} (h : isTargetChar c = true) :
    isPlainChar c = true ∧ isStart c = true := by
  apply of_isTargetChar _ h
  decide

theorem isPlainChar_of_mem_word {word : String} {limit? : Option Level}
    (known : (word, limit?) ∈ Level.limitWords) : ∀ c ∈ word.toList, isPlainChar c = true := by
  have all : ∀ limit ∈ Level.limitWords, limit.1.toList.all isPlainChar = true := by decide
  exact List.all_eq_true.1 (all _ known)

theorem ne_of_isPlainChar {c : Char} (h : isPlainChar c = true) :
    c ≠ ',' ∧ c ≠ '=' ∧ c ≠ '[' ∧ Text.isWhiteSpace c = false := by
  rw [isPlainChar, Bool.and_eq_true, Bool.not_eq_true', Bool.not_eq_true'] at h
  obtain ⟨separates, space⟩ := h
  simp at separates
  exact ⟨separates.1, separates.2.1, separates.2.2, space⟩

theorem dropWhile_isWhiteSpace {s : List Char} (h : ∀ c ∈ s, Text.isWhiteSpace c = false) :
    s.dropWhile Text.isWhiteSpace = s := by
  rcases s with - | ⟨c, s⟩
  · rfl
  · rw [List.dropWhile_cons, h c List.mem_cons_self]
    rfl

theorem trimmed_of_all {s : List Char} (h : ∀ c ∈ s, Text.isWhiteSpace c = false) :
    Text.trimmed s = s := by
  have backwards : ∀ c ∈ s.reverse, Text.isWhiteSpace c = false := fun c mem =>
    h c (List.mem_reverse.1 mem)
  rw [Text.trimmed, dropWhile_isWhiteSpace h, dropWhile_isWhiteSpace backwards,
    List.reverse_reverse]

/-! ### One directive -/

/-- All characters of a directive are plain, but for an equals sign. -/
theorem Spells.chars {text : List Char} {d : Directive} (h : Spells text d) :
    ∀ c ∈ text, isPlainChar c = true ∨ c = '=' := by
  intro c mem
  cases h with
  | level known => exact .inl (isPlainChar_of_mem_word known c mem)
  | target _ chars known =>
    rcases List.mem_append.1 mem with mem | mem
    · exact .inl (isPlainChar_of_isTargetChar (chars c mem)).1
    · rcases List.mem_cons.1 mem with rfl | mem
      · exact .inr rfl
      · exact .inl (isPlainChar_of_mem_word known c mem)

theorem Spells.comma_not_mem {text : List Char} {d : Directive} (h : Spells text d) :
    ',' ∉ text := by
  intro mem
  rcases h.chars _ mem with plain | sign
  · exact (ne_of_isPlainChar plain).1 rfl
  · cases sign

theorem Spells.ne_nil {text : List Char} {d : Directive} (h : Spells text d) : text ≠ [] := by
  cases h with
  | level known =>
    have all : ∀ limit ∈ Level.limitWords, limit.1.toList ≠ [] := by decide
    exact all _ known
  | target => simp

theorem Spells.trimmed {text : List Char} {d : Directive} (h : Spells text d) :
    Text.trimmed text = text := by
  refine trimmed_of_all fun c mem => ?_
  rcases h.chars c mem with plain | rfl
  · exact (ne_of_isPlainChar plain).2.2.2
  · rfl

/-- The first equals sign ends the target. -/
theorem sign?_target {target : List Char} (chars : ∀ c ∈ target, isTargetChar c = true)
    (rest : List Char) :
    sign? ['=', '['] (target ++ '=' :: rest) 0 = some (target.length, '=') := by
  have before :
      (target ++ '=' :: rest).takeWhile (fun c => (['=', '['].contains c).not) = target := by
    have ends : ('=' :: rest).takeWhile (fun c => (['=', '['].contains c).not) = [] := rfl
    rw [List.takeWhile_append_of_pos, ends, List.append_nil]
    intro c mem
    have plain := ne_of_isPlainChar (isPlainChar_of_isTargetChar (chars c mem)).1
    simp [plain.2.1, plain.2.2.1]
  simp only [sign?, List.drop_zero, before, Nat.zero_add]
  simp

theorem ofText?_of_spells {text : List Char} {d : Directive} (h : Spells text d) :
    ofText? text = some (some d) := by
  have trimmed := h.trimmed
  cases h with
  | @level word limit? known =>
    have all : ∀ limit ∈ Level.limitWords,
        ofText? limit.1.toList = some (some ⟨"", none, limit.2⟩) := by decide
    exact all (word, limit?) known
  | @target target word limit? nonempty chars known =>
    have limit : Level.limitBehind? word.toList = some limit? := by
      have all : ∀ limit ∈ Level.limitWords, Level.limitBehind? limit.1.toList = some limit.2 := by
        decide
      exact all (word, limit?) known
    have sign := sign?_target chars word.toList
    obtain ⟨c, rest, rfl⟩ := List.exists_cons_of_ne_nil nonempty
    obtain ⟨plain, start⟩ := isPlainChar_of_isTargetChar (chars c List.mem_cons_self)
    rw [ofText?, trimmed]
    simp only [List.cons_append]
    rw [if_neg (ne_of_isPlainChar plain).2.2.1, if_pos start, ofTarget?, ← List.cons_append, sign]
    simp [between, limit]

end Directive

namespace Filter

theorem splitCommas_of_not_mem {part : List Char} (h : ',' ∉ part) : splitCommas part = [part] := by
  induction part with
  | nil => rfl
  | cons c part ih =>
    rw [List.mem_cons, not_or] at h
    rw [splitCommas, if_neg (Ne.symm h.1), ih h.2]
    rfl

theorem splitCommas_append {part : List Char} (h : ',' ∉ part) (rest : List Char) :
    splitCommas (part ++ ',' :: rest) = part :: splitCommas rest := by
  induction part with
  | nil => rw [List.nil_append, splitCommas, if_pos rfl]
  | cons c part ih =>
    rw [List.mem_cons, not_or] at h
    rw [List.cons_append, splitCommas, if_neg (Ne.symm h.1), ih h.2]
    rfl

theorem splitCommas_intercalate {parts : List (List Char)} (nonempty : parts ≠ [])
    (h : ∀ part ∈ parts, ',' ∉ part) : splitCommas ([','].intercalate parts) = parts := by
  induction parts with
  | nil => exact absurd rfl nonempty
  | cons part rest ih =>
    have unbroken := h part List.mem_cons_self
    rcases rest with - | ⟨next, rest⟩
    · rw [List.intercalate_singleton, splitCommas_of_not_mem unbroken]
    · rw [List.intercalate_cons_cons, List.append_assoc, List.singleton_append,
        splitCommas_append unbroken, ih nofun fun other mem => h other (List.mem_cons_of_mem _ mem)]

/-- **Directives with commas between them are read as these directives**, in their order. -/
theorem ofText?_of_spells {texts : List (List Char)} {directives : List Directive}
    (h : List.Forall₂ Directive.Spells texts directives) (nonempty : texts ≠ []) :
    ofText? (String.ofList ([','].intercalate texts)) = some ⟨directives⟩ := by
  have parts : ∀ text ∈ texts, ',' ∉ text ∧ text.isEmpty = false := by
    clear nonempty
    induction h with
    | nil => nofun
    | cons spells _ ih =>
      intro text mem
      rcases List.mem_cons.1 mem with rfl | mem
      · exact ⟨spells.comma_not_mem, by simpa using spells.ne_nil⟩
      · exact ih text mem
  have read : texts.mapM Directive.ofText? = some (directives.map some) := by
    clear nonempty parts
    induction h with
    | nil => rfl
    | cons spells _ ih => rw [List.mapM_cons, Directive.ofText?_of_spells spells, ih]; rfl
  have kept : texts.filter (!·.isEmpty) = texts := by
    rw [List.filter_eq_self]
    intro text mem
    rw [(parts text mem).2]
    rfl
  rw [ofText?, String.toList_ofList, splitCommas_intercalate nonempty fun text mem =>
    (parts text mem).1, kept, read]
  simp [List.filterMap_map]

end Filter

end CodegenRun
