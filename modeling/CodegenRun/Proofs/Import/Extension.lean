/-
CodegenRun/Proofs/Import/Extension.lean

What the import extension does to a statement.

    without   import { a } from './m';
    with      import { a } from './m.js';

A statement is a stem and two closing characters, the quote and the semicolon
(`render_eq_stem`).  The stem ends with the path, and nothing before the path depends on the
extension, so what is put behind the path is put behind the stem (`stem_append`).  Of a context
only the extension reaches the text, and whatever else differs between two contexts makes no
difference.
-/
import CodegenRun.Proofs.Import.Rendering

namespace CodegenRun

namespace ImportExtension

/-- Without an extension, paths are written as they are. -/
theorem applyTo_none (path : String) : applyTo .none path = path := rfl

theorem exists_ending_of_ne_none {extension : ImportExtension} (h : extension ≠ .none) :
    ∃ suffix, extension.suffix? = some suffix ∧ extension.ending = "." ++ suffix := by
  cases extension with
  | none => exact absurd rfl h
  | js => exact ⟨"js", rfl, rfl⟩
  | ts => exact ⟨"ts", rfl, rfl⟩

end ImportExtension

namespace Import

/-- A statement up to the end of its path. -/
def stem (i : Import) (path : String) : String :=
  "import " ++ (if i.isTypeOnly then "type " else "") ++ i.clause ++ " from '" ++ path

theorem render_eq_stem (i : Import) (extension : ImportExtension) :
    i.render extension = i.stem (extension.applyTo i.module) ++ "';" := rfl

theorem stem_append (i : Import) (path s : String) : i.stem (path ++ s) = i.stem path ++ s := by
  simp only [stem, String.append_assoc]

/-- **The import extension adds a suffix inside the quotes, and nothing else.**  Let the first of
two contexts have no extension.  If the path is not relative, or the second context has none either,
the statements are the same.  Else the second statement is the first one with a point and the suffix
in front of the closing quote.  Under any extension, different paths stay different, and a path is
relative afterwards exactly if it was before. -/
theorem render_of_extension (i : Import) (c₀ c₁ : Context)
    (unextended : c₀.config.importExtension = .none) :
    (ImportExtension.isRelative i.module = false ∨ c₁.config.importExtension = .none →
      i.render c₁.config.importExtension = i.render c₀.config.importExtension) ∧
    (ImportExtension.isRelative i.module = true → c₁.config.importExtension ≠ .none →
      ∃ suffix stem, c₁.config.importExtension.suffix? = some suffix ∧
        i.render c₀.config.importExtension = stem ++ "';" ∧
        i.render c₁.config.importExtension = stem ++ "." ++ suffix ++ "';") ∧
    ∀ extension : ImportExtension, Function.Injective extension.applyTo ∧
      ∀ path, ImportExtension.isRelative (extension.applyTo path) =
        ImportExtension.isRelative path := by
  have plain : i.render c₀.config.importExtension = i.stem i.module ++ "';" := by
    rw [unextended, render_eq_stem, ImportExtension.applyTo_none]
  refine ⟨?_, ?_, ?_⟩
  · rintro (package | alike)
    · rw [plain, render_eq_stem, ImportExtension.applyTo_of_not_isRelative _ package]
    · rw [alike, unextended]
  · intro relative extended
    obtain ⟨suffix, given, ending⟩ := ImportExtension.exists_ending_of_ne_none extended
    refine ⟨suffix, i.stem i.module, given, plain, ?_⟩
    -- behind the path is behind the stem, as nothing but the closing quote follows
    rw [render_eq_stem, ImportExtension.applyTo_of_isRelative _ relative, stem_append, ending,
      ← String.append_assoc]
  · intro extension
    refine ⟨?_, extension.isRelative_applyTo⟩
    intro path other same
    exact ImportExtension.applyTo_inj same

/-- A relative path that ends in an extension already and holds a quote. -/
theorem render_of_extension_quotedModule :
    let c₀ : Context := ⟨.ofPath "out", ⟨{}⟩, {}⟩
    let c₁ : Context := ⟨.ofPath "db.ts", ⟨{}⟩, { importExtension := .ts, verbose := true }⟩
    let i : Import := .wildcard "m" "..'/m.ts"
    c₀.config.importExtension = .none ∧ i.render c₀.config.importExtension =
        "import * as m from '..'/m.ts';" ∧
      ∃ suffix stem, c₁.config.importExtension.suffix? = some suffix ∧
        i.render c₀.config.importExtension = stem ++ "';" ∧
        i.render c₁.config.importExtension = stem ++ "." ++ suffix ++ "';" := by
  intro c₀ c₁ i
  have extended := (render_of_extension i c₀ c₁ rfl).2.1
  exact ⟨rfl, by decide, extended (by decide) (by decide)⟩

end Import

end CodegenRun
