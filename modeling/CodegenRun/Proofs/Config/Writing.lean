/-
CodegenRun/Proofs/Config/Writing.lean

Written settings are read back.

The members of written settings have different names and are neither arrays nor objects, so they
may come in any order, such as the one in which they are read from a text: no lookup changes.  The
check accepts them in each and gives the settings that were written (`ofRaw?_of_rearranges`).
-/
import CodegenRun.Proofs.Codec.RoundTrip
import CodegenRun.Proofs.Config.Issues
import CodegenRun.Proofs.Json.Order

namespace CodegenRun

namespace Config

/-- The members of written settings.  The formatter and the date mode are left out if there are
none. -/
def members (c : Config) : List (String × Json) :=
  [("relationalQuery", .bool c.relationalQuery),
    ("importFileExtension", .str c.importExtension.name),
    ("verbose", .bool c.verbose)] ++
  (c.formatter.map fun formatter => ("formatter", Json.str formatter)).toList ++
  [("abortOnFailedFormatting", .bool c.abortOnFailedFormatting)] ++
  (c.dateMode.map fun mode => ("dateMode", Json.str mode.name)).toList

theorem toJson_eq_obj (c : Config) : c.toJson = .obj c.members := by
  obtain ⟨_, _, _, formatter, _, mode⟩ := c
  cases formatter <;> cases mode <;> rfl

theorem nodup_members (c : Config) : (c.members.map Prod.fst).Nodup := by
  obtain ⟨_, _, _, formatter, _, mode⟩ := c
  cases formatter <;> cases mode <;> simp [members]

theorem all_isScalar_members (c : Config) :
    (c.members.all fun member => member.2.isScalar) = true := by
  obtain ⟨_, _, _, formatter, _, mode⟩ := c
  cases formatter <;> cases mode <;> rfl

theorem isScalar_of_get?_toJson {c : Config} {key : String} {v : Json}
    (h : c.toJson.get? key = some v) : v.isScalar = true := by
  rw [toJson_eq_obj, Json.get?, List.lookup_eq_some_iff] at h
  obtain ⟨before, after, split, -⟩ := h
  have mem : (key, v) ∈ c.members := by simp [split]
  exact List.all_eq_true.1 c.all_isScalar_members _ mem

/-- Written settings are accepted, and are the settings that were written. -/
theorem ofRaw?_toJson (c : Config) : ofRaw? c.toJson = .ok c := by
  have object : c.toJson.isObject = true := by
    rw [toJson_eq_obj]
    rfl
  have noObject : ∀ key, ¬ HoldsObject c.toJson key := by
    rintro key ⟨v, member, isObject⟩
    have scalar := isScalar_of_get?_toJson member
    cases v with
    | obj members => cases scalar
    | _ => cases isObject
  have read : codec.decode c.toJson = .ok c :=
    Codec.decode_encode codec WireType.config.isFaithful_codec c
  exact ofRaw?_eq_ok_iff.2 ⟨issues_eq_nil_of_decode object read (noObject _) (noObject _), read⟩

/-- The same holds of the settings with their members in any order. -/
theorem ofRaw?_of_rearranges {c : Config} {raw : Json} (h : c.toJson.Rearranges raw) :
    ofRaw? raw = .ok c := by
  rw [toJson_eq_obj] at h
  have flat := List.all_eq_true.1 c.all_isScalar_members
  obtain ⟨arranged, rfl, perm⟩ := h.eq_obj flat
  have object : c.toJson.isObject = true := by
    rw [toJson_eq_obj]
    rfl
  rw [← c.ofRaw?_toJson]
  refine ofRaw?_congr rfl object fun key _ => ?_
  rw [toJson_eq_obj]
  exact Json.lookup_of_perm key perm c.nodup_members

/-- Read from a text, written settings have their members in another order. -/
theorem rearranges_toJson (c : Config) : c.toJson.Rearranges c.toJson.sorted := by
  rw [toJson_eq_obj]
  have flat := List.all_eq_true.1 c.all_isScalar_members
  exact Json.rearranges_sorted (.obj c.nodup_members fun member mem => .scalar (flat member mem))

theorem isIntegral_toJson (c : Config) : c.toJson.IsIntegral := by
  obtain ⟨_, _, _, formatter, _, mode⟩ := c
  cases formatter <;> cases mode <;>
    simp [toJson_eq_obj, members, Json.IsIntegral, Json.MembersAreIntegral]

theorem depth_toJson (c : Config) : c.toJson.depth = 1 := by
  obtain ⟨_, _, _, formatter, _, mode⟩ := c
  cases formatter <;> cases mode <;> rfl

end Config
end CodegenRun
