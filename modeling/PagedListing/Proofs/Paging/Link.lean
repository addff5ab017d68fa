import PagedListing.Paging.Link
import PagedListing.Proofs.Config
import PagedListing.Proofs.Maps
import PagedListing.Proofs.Number.Decimal
import PagedListing.Proofs.Web.Url

/-!
# Links read back

The parameters of the request that a link makes are those in the address of the listing, and over them
the ones that were put into the link (`paramsOfLink_nextLink`). An address has no parameters if host and
path have no marks (`addressParams_of_unmarked`), so what is put into its links is read back from them
(`nextLink_readsBack`), and the number of the last record is the end of their text
(`exists_front_nextLink`).
-/

namespace PagedListing
open PagedListing.Web (Unmarked unmarked_append)

/-- A protocol has no marks. -/
lemma Config.unmarked_protocol {c : Config} (h : isProtocol c.protocol = true) :
    Unmarked c.protocol.toList := by
  simp only [isProtocol, Bool.and_eq_true, List.all_eq_true] at h
  constructor
  · intro hmem
    cases h.2 _ hmem
  · intro hmem
    cases h.2 _ hmem

/-- The address of a listing has no marks if its origin and its path have none. -/
lemma unmarked_listingAddress_of_origin {config : Config} {path : String}
    (horigin : Unmarked config.origin.toList) (hpath : Unmarked path.toList) :
    Unmarked (listingAddress config path).toList := by
  have hslash : Unmarked "/".toList := by decide
  have hrest : Unmarked (String.ofList (path.toList.dropWhile (· = '/'))).toList := by
    rw [String.toList_ofList]
    exact hpath.subset (List.dropWhile_suffix _).subset
  rw [listingAddress, String.toList_append, String.toList_append]
  exact unmarked_append.mpr ⟨unmarked_append.mpr ⟨horigin, hslash⟩, hrest⟩

/-- The address of a listing has no marks if the host and the path have none. -/
lemma unmarked_listingAddress {config : Config} {path : String}
    (hconfig : config.validate = .ok ()) (hhost : Unmarked config.host.toList)
    (hpath : Unmarked path.toList) : Unmarked (listingAddress config path).toList := by
  have hprotocol := Config.unmarked_protocol (Config.validate_cases hconfig).1
  have hcolon : Unmarked "://".toList := by decide
  refine unmarked_listingAddress_of_origin ?_ hpath
  rw [Config.origin, String.toList_append, String.toList_append]
  exact unmarked_append.mpr ⟨unmarked_append.mpr ⟨hprotocol, hcolon⟩, hhost⟩

/-- The parameters in the address of a listing. -/
def addressParams (config : Config) (path : String) : Params :=
  match Web.Url.read (listingAddress config path) with
  | .ok url => paramsOfLink url.text
  | .error _ => .empty

/-- A query string that begins with no mark is read as a form. -/
lemma Params.ofQueryString_of_head? {query : List Char} (h : query.head? ≠ some '?') :
    ofQueryString (String.ofList query) =
      OrderedMap.ofList (Web.Form.read (String.ofList query)) := by
  unfold ofQueryString
  dsimp only
  split
  · rename_i rest e
    rw [String.toList_ofList] at e
    rw [e] at h
    exact absurd rfl h
  · rfl

/-- A mark before a query string is left out. -/
lemma Params.ofQueryString_mark (query : List Char) :
    ofQueryString (String.ofList ('?' :: query)) =
      OrderedMap.ofList (Web.Form.read (String.ofList query)) := by
  rw [ofQueryString, String.toList_ofList]
  rfl

/-- Pairs that are written behind a query are set over its parameters. -/
lemma Params.ofQueryString_appendPairs (query : List Char) (pairs : List (String × String)) :
    ofQueryString (String.ofList (Web.Form.appendPairs query pairs)) =
      (ofQueryString (String.ofList query)).putAll pairs := by
  cases query with
  | nil =>
    have hhead : (Web.Form.appendPairs [] pairs).head? ≠ some '?' := by
      intro e
      exact (Web.Form.unmarked_appendPairs pairs).1 (List.mem_of_mem_head? e)
    rw [ofQueryString_of_head? hhead, Web.Form.read_appendPairs]
    rfl
  | cons first rest =>
    have hne : first :: rest ≠ [] := List.cons_ne_nil _ _
    by_cases hmark : first = '?'
    · rw [hmark, Web.Form.appendPairs_of_ne_nil (hmark ▸ hne), List.cons_append,
        ofQueryString_mark, ofQueryString_mark, Web.Form.read_flatMap, OrderedMap.ofList_append]
    · have hhead : (first :: rest).head? ≠ some '?' := fun e => hmark (Option.some.inj e)
      have hhead' : (Web.Form.appendPairs (first :: rest) pairs).head? ≠ some '?' := by
        rw [Web.Form.appendPairs_of_ne_nil hne]
        exact hhead
      rw [ofQueryString_of_head? hhead', ofQueryString_of_head? hhead, Web.Form.read_appendPairs,
        OrderedMap.ofList_append]

/-- An address that brings parameters can be read. -/
lemma exists_read_of_addressParams {config : Config} {path : String} {own : Params}
    (h : addressParams config path = own) (hne : own ≠ .empty) :
    ∃ url, Web.Url.read (listingAddress config path) = .ok url := by
  rw [addressParams] at h
  split at h
  · rename_i url hread
    exact ⟨url, hread⟩
  · exact absurd h.symm hne

/-- A link can be built on every address that can be read. -/
lemma exists_nextLink {config : Config} {path : String}
    (haddress : ∃ url, Web.Url.read (listingAddress config path) = .ok url)
    (echoed : List (String × String)) (cursor : String) (lastId : Int64) :
    ∃ link, nextLink config path echoed cursor lastId = .ok link := by
  obtain ⟨url, hread⟩ := haddress
  exact ⟨_, by rw [nextLink, hread]⟩

/-- A link leads to the request with the parameters of the address, and over them those that were put
into the link. -/
theorem paramsOfLink_nextLink {config : Config} {path link cursor : String}
    {echoed : List (String × String)} {lastId : Int64}
    (h : nextLink config path echoed cursor lastId = .ok link) :
    paramsOfLink link =
      (addressParams config path).putAll (echoed ++ [(cursor, Number.int64Text lastId)]) := by
  rw [nextLink] at h
  split at h
  · cases h
  · rename_i url hread
    cases h
    obtain ⟨hfront, hquery, -⟩ := Web.Url.readFrom_of_read hread
    rw [paramsOfLink, Web.Url.queryOf_appendPairs hread, Params.ofQueryString_appendPairs,
      addressParams, hread]
    dsimp only
    rw [paramsOfLink, Web.Url.queryOf_text hfront hquery]

/-- An address without marks has no parameters. -/
lemma addressParams_of_unmarked {config : Config} {path : String}
    (h : Unmarked (listingAddress config path).toList) : addressParams config path = .empty := by
  rw [addressParams]
  split
  · rename_i url hread
    obtain ⟨hfront, hquery, hbare⟩ := Web.Url.readFrom_of_read hread
    rw [paramsOfLink, Web.Url.queryOf_text hfront hquery, (hbare h).1]
    rfl
  · rfl

/-- A link of an address without marks leads to the request with the parameters that were put into it. -/
theorem nextLink_spec {config : Config} {path : String} {echoed : List (String × String)}
    {cursor : String} (hread : ∃ url, Web.Url.read (listingAddress config path) = .ok url)
    (haddress : Unmarked (listingAddress config path).toList) (lastId : Int64)
    (nd : (entryNames (echoed ++ [(cursor, Number.int64Text lastId)])).Nodup) :
    ∃ link, nextLink config path echoed cursor lastId = .ok link ∧
      (paramsOfLink link).entries = echoed ++ [(cursor, Number.int64Text lastId)] := by
  obtain ⟨link, hlink⟩ := exists_nextLink hread echoed cursor lastId
  refine ⟨link, hlink, ?_⟩
  rw [paramsOfLink_nextLink hlink, addressParams_of_unmarked haddress]
  exact OrderedMap.entries_putAll _ .empty nd

/-- The query of a link is read as the pairs that were put into it. -/
lemma pairs_of_nextLink {config : Config} {path link cursor : String}
    {echoed : List (String × String)} {lastId : Int64}
    (haddress : Unmarked (listingAddress config path).toList)
    (h : nextLink config path echoed cursor lastId = .ok link) :
    Web.Form.read (Web.Url.queryOf link) = echoed ++ [(cursor, Number.int64Text lastId)] := by
  rw [nextLink] at h
  split at h
  · cases h
  · rename_i url hread
    cases h
    obtain ⟨hquery, -⟩ := (Web.Url.readFrom_of_read hread).bare haddress
    rw [Web.Url.queryOf_appendPairs hread, hquery, Web.Form.read_appendPairs]
    rfl

/-! ## The text of a link -/

/-- Decimal texts are written as they are. -/
lemma encode_int64Text (n : Int64) :
    Web.Form.encode (Number.int64Text n) = (Number.int64Text n).toList := by
  refine Web.Form.encode_of_plain fun c hc => ?_
  cases Number.mem_int64Text_cases hc with
  | inl e => subst e; decide
  | inr hdigit =>
    have hrange : 48 ≤ c.toNat ∧ c.toNat ≤ 57 := Char.isDigit_iff_toNat.mp hdigit
    have hsize : c.toNat < UInt8.size := Nat.lt_of_le_of_lt hrange.2 (by decide)
    have hbyte : (UInt8.ofNat c.toNat).toNat = c.toNat := UInt8.toNat_ofNat_of_lt' hsize
    refine ⟨by omega, ?_⟩
    simp only [Web.Form.isPlain, hbyte, Bool.or_eq_true, Bool.and_eq_true, decide_eq_true_eq]
    omega

/-- The links that repeat the same parameters differ in the number at their end. -/
theorem exists_front_nextLink {config : Config} {path : String}
    (haddress : Unmarked (listingAddress config path).toList) (echoed : List (String × String))
    (cursor : String) :
    ∃ front : String, ∀ lastId link, nextLink config path echoed cursor lastId = .ok link →
      link = front ++ Number.int64Text lastId := by
  cases hread : Web.Url.read (listingAddress config path) with
  | error problem =>
    refine ⟨"", fun lastId link h => ?_⟩
    rw [nextLink, hread] at h
    cases h
  | ok url =>
    -- without a fragment the query is the end of the link
    obtain ⟨-, hfragment⟩ := (Web.Url.readFrom_of_read hread).bare haddress
    obtain ⟨front, hfront⟩ :=
      Web.Form.exists_appendPairs_concat (url.query.getD []) echoed cursor
    refine ⟨String.ofList (url.front ++ '?' :: front), fun lastId link h => ?_⟩
    rw [nextLink, hread] at h
    cases h
    rw [← String.toList_inj, String.toList_append, String.toList_ofList, ← encode_int64Text,
      List.append_assoc, List.cons_append, ← hfront]
    show (String.ofList (url.front ++ Web.Url.marked '?' (some _) ++
      Web.Url.marked '#' url.fragment)).toList = _
    rw [hfragment, String.toList_ofList, Web.Url.marked, Web.Url.marked, List.append_nil]

/-! ## Reading a link -/

/-- What is put into a link is read back from it: the repeated parameters in their order, whatever
characters they have, and the cursor behind them as the number that it was written for. -/
theorem nextLink_readsBack {config : Config} {path : String} {echoed : List (String × String)}
    {cursor : String} (horigin : Unmarked config.origin.toList) (hpath : Unmarked path.toList)
    (hread : ∃ url, Web.Url.read (listingAddress config path) = .ok url)
    (nd : (entryNames echoed).Nodup) (hcursor : cursor ∉ entryNames echoed) (lastId : Int64) :
    ∃ link, nextLink config path echoed cursor lastId = .ok link ∧
      (Params.ofQueryString (Web.Url.queryOf link)).entries =
        echoed ++ [(cursor, Number.int64Text lastId)] ∧
      Number.readInt64? (Number.int64Text lastId).toList = some lastId := by
  have haddress := unmarked_listingAddress_of_origin horigin hpath
  obtain ⟨link, hlink, hentries⟩ :=
    nextLink_spec hread haddress lastId (nodup_concat nd hcursor (Number.int64Text lastId))
  exact ⟨link, hlink, hentries, Number.readInt64?_int64Text lastId⟩

/-- Pairs of the characters that a query reserves, of control characters and beyond ASCII. -/
def reservedPairs : List (String × String) :=
  [("?a&b=c", "1+1 = 2%20#"), ("", "\x00\n\""), ("é", ""), ("where__id__in", "%,;😀")]

/-- Reserved characters are read back behind a cursor of the least number. -/
theorem nextLink_readsBack_reserved :
    ∃ link, nextLink {} "//a b/é" reservedPairs "&=?" Int64.minValue = .ok link ∧
      (Params.ofQueryString (Web.Url.queryOf link)).entries =
        reservedPairs ++ [("&=?", "-9223372036854775808")] := by
  have hread : ∃ url, Web.Url.read (listingAddress {} "//a b/é") = .ok url :=
    Steps.exists_eq_ok_of_toBool (by decide +kernel)
  obtain ⟨link, hlink, hentries, -⟩ := nextLink_readsBack (by decide) (by decide) hread (by decide)
    (show "&=?" ∉ entryNames reservedPairs by decide) Int64.minValue
  exact ⟨link, hlink, hentries⟩

end PagedListing
