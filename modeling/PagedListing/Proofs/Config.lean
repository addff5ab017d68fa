import PagedListing.Config
import PagedListing.Proofs.Steps

/-!
# Valid configurations

What the checks of a configuration ensure for the pages: a protocol of letters, and a page size by
default that is neither zero nor beyond the bound.
-/

namespace PagedListing.Config
open PagedListing.Steps

/-- The configuration by default is valid. -/
lemma validate_default : ({} : Config).validate = .ok () := by
  obtain ⟨_, h⟩ := exists_eq_ok_of_toBool
    (show (({} : Config).validate).toBool = true by decide +kernel)
  exact h

/-- What a valid configuration ensures. -/
theorem validate_cases {c : Config} (h : c.validate = .ok ()) :
    isProtocol c.protocol = true ∧ c.defaultTake ≠ 0 ∧
      ∀ bound, c.maxTake = some bound → ¬ bound < c.defaultTake := by
  obtain ⟨hprotocol, h⟩ := unless_throw_eq_ok_iff.mp h
  obtain ⟨-, h⟩ := unless_throw_eq_ok_iff.mp h
  have hprotocol : isProtocol c.protocol = true := by simpa using hprotocol
  dsimp only at h
  cases hread : Web.Url.read c.origin with
  | error problem =>
    rw [hread] at h
    cases h
  | ok url =>
    rw [hread] at h
    obtain ⟨htake, h⟩ := unless_throw_eq_ok_iff.mp h
    refine ⟨hprotocol, htake, fun bound hbound hlt => ?_⟩
    rw [hbound] at h
    dsimp only at h
    rw [if_pos hlt] at h
    cases h

/-- A page size within the bound for page sizes. -/
def bounded (c : Config) (take : UInt32) : UInt32 :=
  match c.maxTake with
  | some bound => if bound < take then bound else take
  | none => take

/-- A bounded page size is at most the bound. -/
lemma toNat_bounded {c : Config} {bound : UInt32} (h : c.maxTake = some bound) (take : UInt32) :
    (c.bounded take).toNat = min take.toNat bound.toNat := by
  rw [bounded, h]
  dsimp only
  split
  · rename_i hlt
    exact (Nat.min_eq_right (Nat.le_of_lt (UInt32.lt_iff_toNat_lt.mp hlt))).symm
  · rename_i hle
    exact (Nat.min_eq_left (UInt32.le_iff_toNat_le.mp (UInt32.not_lt.mp hle))).symm

/-- The page size by default of a valid configuration is within the bound. -/
lemma bounded_defaultTake {c : Config} (h : c.validate = .ok ()) :
    c.bounded c.defaultTake = c.defaultTake := by
  obtain ⟨-, -, hbound⟩ := validate_cases h
  unfold bounded
  split
  · rename_i bound e
    rw [if_neg (hbound bound e)]
  · rfl

end PagedListing.Config
