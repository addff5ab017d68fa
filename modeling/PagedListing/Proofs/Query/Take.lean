import PagedListing.Proofs.Query.Compose
import PagedListing.Proofs.Text.Pieces

/-!
# Page sizes

A request that asks for a page size only gets the size that its text denotes, or the bound if that is
smaller. The text of no positive integer is refused (`readTake_eq_error`), and so is the text of an
integer that has more than 32 bits, however small the bound is: `compose_take` says how both limits
meet, and `compose_take_refusesLarge` that a size beyond the second one is not bounded.
-/

namespace PagedListing
open PagedListing.Number (Denotes denotes_toString readUInt32? readUInt32?_eq_some_iff
  readUInt32?_of_denotes)
open PagedListing.Steps

variable {schema : Schema} {config : Config}

/-- The request for a page size in the given words, and for nothing else. -/
def asksTake (raw : String) : Params :=
  .ofList [(Params.take, raw)]

/-- A text denotes no positive integer: zero, a negative one, or none at all. -/
def NoSize (raw : String) : Prop :=
  (∃ z ≤ 0, Denotes (Text.trim raw).toList z) ∨ ∀ z, ¬ Denotes (Text.trim raw).toList z

/-- The error of a page size that is not read. -/
def notPositive (raw : String) : Error :=
  .invalidParameter Params.take ("'" ++ raw ++ "' is not a positive integer")

/-! ## Reading a page size -/

/-- A page size that does not fit into 32 bits is refused. -/
lemma readTake_of_large {params : Params} {raw : String} {n : Nat}
    (hget : params.get? Params.take = some raw) (hn : Denotes (Text.trim raw).toList n)
    (hlarge : UInt32.size ≤ n) : readTake params config = .error (notPositive raw) := by
  have hpos : 0 < n := Nat.lt_of_lt_of_le (by decide) hlarge
  have hread := readUInt32?_of_denotes hn hpos
  rw [if_neg (Nat.not_lt.mpr hlarge)] at hread
  rw [readTake, hget]
  simp only [hread, notPositive]

/-- A page size that fits into 32 bits is put into its bounds. -/
lemma readTake_of_small {params : Params} {raw : String} {n : Nat}
    (hget : params.get? Params.take = some raw) (hn : Denotes (Text.trim raw).toList n)
    (hpos : 0 < n) (hsmall : n < UInt32.size) :
    readTake params config = .ok (config.bounded (.ofNat n)) := by
  have hread := readUInt32?_of_denotes hn hpos
  rw [if_pos hsmall] at hread
  refine readTake_of_read (fun hzero => ?_) hget hread
  have hnat := congrArg UInt32.toNat hzero
  rw [UInt32.toNat_ofNat_of_lt' hsmall] at hnat
  exact hpos.ne' hnat

/-- The text of no positive integer is not the text of a page size. -/
theorem readTake_eq_error {params : Params} {raw : String}
    (hget : params.get? Params.take = some raw) (hraw : NoSize raw) :
    ∃ problem, readTake params config = .error (.invalidParameter Params.take problem) := by
  rw [readTake, hget]
  dsimp only
  cases hread : readUInt32? (Text.trim raw).toList with
  | none => exact ⟨_, rfl⟩
  | some take =>
    have hdenotes := (readUInt32?_eq_some_iff.mp hread).1
    have hzero : take = 0 := by
      obtain ⟨z, hz, hdenotes'⟩ | hnone := hraw
      · have hsame := hdenotes.unique hdenotes'
        exact UInt32.toNat_inj.mp (by rw [UInt32.toNat_zero]; omega)
      · exact absurd hdenotes (hnone _)
    exact ⟨_, if_pos hzero⟩

/-! ## Requests for a page size -/

/-- A request for a page size comes to what the size is read as. -/
lemma compose_asksTake (raw : String) :
    compose (asksTake raw) schema config =
      (readTake (asksTake raw) config).map fun take => ⟨none, take, none, .empty, .empty⟩ := by
  have hfold : (asksTake raw).entries.foldlM (Draft.add schema) .empty = .ok .empty :=
    bind_eq_ok_iff.mpr ⟨_, Draft.add_of_no_directive ofKey_take raw, rfl⟩
  have hpage : readPage (asksTake raw) = .ok none := readPage_of_absent rfl
  rw [compose, hfold, hpage]
  cases readTake (asksTake raw) config with
  | error e => rfl
  | ok take => rfl

/-- The decimal text of an integer denotes it, with blanks around it or not. -/
lemma denotes_padded {before after : String} (n : Nat) (hbefore : Text.Blank before)
    (hafter : Text.Blank after) :
    Denotes (Text.trim (before ++ toString n ++ after)).toList n := by
  rw [Text.trim_padded _ hbefore hafter, Number.trim_toString_nat]
  exact denotes_toString n

/-- A request for a positive page size gets it or the bound, whichever is smaller, as long as the size
has 32 bits; a larger size is refused. The text of zero, of a negative integer or of no integer at all
is refused too. -/
theorem compose_take {bound : UInt32} (hmax : config.maxTake = some bound) (schema : Schema) :
    (∀ (n : Nat) (before after : String), 0 < n → Text.Blank before → Text.Blank after →
      (n < UInt32.size → ∃ take : UInt32, take.toNat = min n bound.toNat ∧
        compose (asksTake (before ++ toString n ++ after)) schema config =
          .ok ⟨none, take, none, .empty, .empty⟩) ∧
      (UInt32.size ≤ n → compose (asksTake (before ++ toString n ++ after)) schema config =
        .error (notPositive (before ++ toString n ++ after)))) ∧
    (∀ raw, NoSize raw → ∃ problem,
      compose (asksTake raw) schema config = .error (.invalidParameter Params.take problem)) := by
  refine ⟨fun n before after hpos hbefore hafter => ⟨fun hsmall => ?_, fun hlarge => ?_⟩,
    fun raw hraw => ?_⟩
  · have hn := denotes_padded n hbefore hafter
    refine ⟨config.bounded (.ofNat n), ?_, ?_⟩
    · rw [Config.toNat_bounded hmax, UInt32.toNat_ofNat_of_lt' hsmall]
    · rw [compose_asksTake, readTake_of_small rfl hn hpos hsmall]
      rfl
  · rw [compose_asksTake, readTake_of_large rfl (denotes_padded n hbefore hafter) hlarge]
    rfl
  · have hget : (asksTake raw).get? Params.take = some raw := rfl
    obtain ⟨problem, hread⟩ := readTake_eq_error hget hraw
    refine ⟨problem, ?_⟩
    rw [compose_asksTake, hread]
    rfl

/-- A configuration with a bound for page sizes. -/
def shortPages : Config := { maxTake := some 50 }

/-- A schema of letters. -/
def letters : Schema := ⟨"letters", [⟨"id", .integer⟩]⟩

/-- A size beyond the bound is bounded, also with blanks around it; a negative one is refused. -/
theorem compose_take_letters :
    shortPages.maxTake = some 50 ∧
    (∃ take : UInt32, take.toNat = 50 ∧
      compose (asksTake (" " ++ toString 4294967295 ++ "\n")) letters shortPages =
        .ok ⟨none, take, none, .empty, .empty⟩) ∧
    ∃ problem, compose (asksTake "-7") letters shortPages =
      .error (.invalidParameter Params.take problem) := by
  have hmax : shortPages.maxTake = some 50 := rfl
  have hseven : NoSize "-7" := by
    refine .inl ⟨-7, by decide, ?_⟩
    have htrim : (Text.trim "-7").toList = (toString (-7 : Int)).toList := by decide
    rw [htrim]
    exact denotes_toString (-7)
  obtain ⟨hsize, hrefused⟩ := compose_take hmax letters
  obtain ⟨take, htake, hcompose⟩ :=
    (hsize 4294967295 " " "\n" (by decide) (by decide) (by decide)).1 (by decide)
  exact ⟨hmax, ⟨take, htake, hcompose⟩, hrefused "-7" hseven⟩

/-- A size of more than 32 bits is not bounded: it is refused as if it were no positive integer. -/
theorem compose_take_refusesLarge :
    shortPages.validate = .ok () ∧ shortPages.maxTake = some 50 ∧
    compose (asksTake (toString 4294967296)) letters shortPages =
      .error (.invalidParameter Params.take "'4294967296' is not a positive integer") := by
  obtain ⟨_, hvalid⟩ := exists_eq_ok_of_toBool
    (show shortPages.validate.toBool = true by decide +kernel)
  exact ⟨hvalid, rfl, by decide +kernel⟩

end PagedListing
