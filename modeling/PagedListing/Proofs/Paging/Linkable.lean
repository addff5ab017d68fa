import PagedListing.Proofs.Paging.Progress
import PagedListing.Proofs.Store.Errors
import PagedListing.Proofs.Web.Origin

/-!
# Links that can be built

A valid configuration has an origin that is a URL. Whether its links can be built is decided by the
origin with a slash behind it, for all paths alike (`linkable_iff`): the two differ for a host that
ends in blanks, which a path behind it turns into a part of the host, and for a lone at sign.
-/

namespace PagedListing
open PagedListing.Steps
open PagedListing.Web (Url)

variable {config : Config}

/-! ## Origins -/

namespace Config

/-- The origin is a URL with a slash behind it. -/
def Linkable (c : Config) : Prop :=
  ∃ url, Url.read (c.origin ++ "/") = .ok url

/-- A host that is read as it is with a path behind it: no blank that stays in a URL stands at its end,
and it is not a lone at sign. -/
structure HostStands (c : Config) : Prop where
  trimmed : ∀ d ∈ c.host.toList.rtakeWhile Url.isOuter, Url.isKept d = false
  notAt : c.host.toList.filter Url.isKept ≠ ['@']

/-- A protocol is not empty and has only letters. -/
lemma letters_of_isProtocol {protocol : String} (h : isProtocol protocol = true) :
    protocol.toList ≠ [] ∧ ∀ d ∈ protocol.toList, d.isAlpha = true := by
  simp only [isProtocol, Bool.and_eq_true, List.all_eq_true] at h
  refine ⟨?_, h.2⟩
  intro hnil
  rw [String.toList_eq_nil_iff.mp hnil] at h
  cases h.1

/-- An origin is read by the scheme of its protocol and the host, without what is around it. -/
lemma read_origin (h : isProtocol config.protocol = true) :
    Url.read config.origin = Url.readBehind (Url.schemeOf config.protocol.toList)
      ('/' :: '/' :: (config.host.toList.rdropWhile Url.isOuter).filter Url.isKept) := by
  obtain ⟨hne, hletters⟩ := letters_of_isProtocol h
  have horigin : config.origin =
      String.ofList (config.protocol.toList ++ ':' :: '/' :: '/' :: config.host.toList) := by
    rw [← String.toList_inj, String.toList_ofList, origin, String.toList_append,
      String.toList_append, List.append_assoc]
    rfl
  rw [horigin, Url.read_of_letters hne hletters]

/-- An address is read by the scheme of its protocol, the host as it stands, and the path without what
is behind it. -/
lemma read_path (h : isProtocol config.protocol = true) (path : String) :
    Url.read (config.origin ++ "/" ++ path) = Url.readBehind (Url.schemeOf config.protocol.toList)
      ('/' :: '/' :: (config.host.toList.filter Url.isKept ++
        '/' :: (path.toList.rdropWhile Url.isOuter).filter Url.isKept)) := by
  obtain ⟨hne, hletters⟩ := letters_of_isProtocol h
  have haddress : config.origin ++ "/" ++ path = String.ofList (config.protocol.toList ++
      ':' :: '/' :: '/' :: (config.host.toList ++ '/' :: path.toList)) := by
    rw [← String.toList_inj, String.toList_ofList, String.toList_append, String.toList_append,
      origin, String.toList_append, String.toList_append]
    simp
  rw [haddress, Url.read_of_letters hne hletters, Url.rdropWhile_append (by decide),
    List.filter_append, List.filter_cons_of_pos (by decide)]

/-- The origin of a valid configuration can be read. -/
lemma exists_read_origin (h : config.validate = .ok ()) :
    ∃ url, Url.read config.origin = .ok url := by
  obtain ⟨-, h⟩ := unless_throw_eq_ok_iff.mp h
  obtain ⟨-, h⟩ := unless_throw_eq_ok_iff.mp h
  cases hread : Url.read config.origin with
  | ok url => exact ⟨url, rfl⟩
  | error problem =>
    dsimp only at h
    rw [hread] at h
    cases h

/-- Behind the origin of a valid configuration all paths are alike. -/
lemma exists_read_path_iff (h : config.validate = .ok ()) (path : String) :
    (∃ url, Url.read (config.origin ++ "/" ++ path) = .ok url) ↔ config.Linkable := by
  have hprotocol := (validate_cases h).1
  have hhost : Web.SchemeKind.ofScheme (Url.schemeOf config.protocol.toList) = .special →
      ∃ d ∈ config.host.toList.filter Url.isKept, Web.SchemeKind.special.isSlash d = false := by
    intro hkind
    obtain ⟨url, hread⟩ := exists_read_origin h
    rw [read_origin hprotocol] at hread
    obtain ⟨d, hd, hslash⟩ := Url.exists_host_of_special hread hkind
    rw [List.mem_filter] at hd
    exact ⟨d, List.mem_filter.mpr ⟨(List.rdropWhile_prefix _ _).subset hd.1, hd.2⟩, hslash⟩
  have hempty := read_path hprotocol ""
  rw [String.append_empty] at hempty
  rw [Linkable, hempty, read_path hprotocol path]
  exact Url.exists_readBehind_path_iff hhost _ _

/-- With a host that stands as it is the links of a valid configuration can be built. -/
lemma HostStands.linkable (hhost : config.HostStands) (h : config.validate = .ok ()) :
    config.Linkable := by
  have hprotocol := (validate_cases h).1
  have hsame : (config.host.toList.rdropWhile Url.isOuter).filter Url.isKept =
      config.host.toList.filter Url.isKept := by
    have hcut := List.rdropWhile_append_rtakeWhile (p := Url.isOuter) (l := config.host.toList)
    have hnone : (config.host.toList.rtakeWhile Url.isOuter).filter Url.isKept = [] :=
      List.filter_eq_nil_iff.mpr fun d hd => Bool.eq_false_iff.mp (hhost.trimmed d hd)
    conv_rhs => rw [← hcut, List.filter_append, hnone, List.append_nil]
  obtain ⟨url, hread⟩ := exists_read_origin h
  rw [read_origin hprotocol, hsame] at hread
  refine (exists_read_path_iff h "").mp ?_
  rw [read_path hprotocol]
  exact Url.exists_readBehind_of_origin hread hhost.notAt _

end Config

/-- A valid configuration builds all links or none. -/
lemma exists_nextLink_iff (hconfig : config.validate = .ok ()) (path : String)
    (echoed : List (String × String)) (cursor : String) (lastId : Int64) :
    (∃ link, nextLink config path echoed cursor lastId = .ok link) ↔ config.Linkable := by
  rw [← config.exists_read_path_iff hconfig (String.ofList (path.toList.dropWhile (· = '/')))]
  constructor
  · rintro ⟨link, h⟩
    rw [nextLink] at h
    split at h
    · cases h
    · rename_i url hread
      exact ⟨url, hread⟩
  · exact fun haddress => exists_nextLink haddress echoed cursor lastId

/-- A link that cannot be built fails for its URL. -/
lemma failsWith_nextLink (path : String) (echoed : List (String × String)) (cursor : String)
    (lastId : Int64) : FailsWith (fun e => ∃ problem, e = .url problem)
      (nextLink config path echoed cursor lastId) := by
  unfold nextLink
  split
  · exact .error ⟨_, rfl⟩
  · exact .ok _

/-! ## Pages -/

/-- Where links can be built, a request fails for a URL only if the store does. -/
theorem paginate_notUrl {σ ρ : Type} [Store σ ρ] (hstore : AnswersNoUrl σ)
    (hlinks : config.Linkable) (path : String) (overrides : Overrides) (params : Params) (store : σ) :
    FailsWith Error.NotUrl (paginate config path overrides params store).1 := by
  rw [paginate]
  cases hquery : checkedQuery (Store.schema store) config params overrides with
  | error e => exact .error (refuses_of_checkedQuery _ _ _ _ e hquery).notUrl
  | ok query =>
    obtain ⟨hconfig, -⟩ := checkedQuery_eq_ok_iff.mp hquery
    dsimp only
    cases query.page with
    | some page => exact failsWith_bind (hstore _ store).2 fun _ _ => .ok _
    | none =>
      refine failsWith_bind (hstore _ store).1 fun records store => ?_
      cases records.getLast? with
      | none => exact .ok _
      | some last =>
        obtain ⟨link, hlink⟩ := (exists_nextLink_iff hconfig path (echo params query)
          (cursorKey config query) (Store.id σ last)).mpr hlinks
        refine failsWith_bind ?_ fun _ _ => .ok _
        dsimp only [Answer.lift]
        rw [hlink]
        exact .ok _

namespace MemoryStore

/-- The first request for a single message is answered by it, if its link can be built. -/
lemma paginate_single (hconfig : config.validate = .ok ()) (path : String) :
    ∃ query, paginate config path {} .empty (messagesOf [1] 0) =
      (do
        let link ← nextLink config path (echo .empty query) (cursorKey config query) 1
        return .cursor [message 1] (some 1) 1 (some link), messagesOf [1] 1) := by
  have hcompose : compose .empty messages.schema config =
      .ok ⟨none, config.defaultTake, none, .empty, .empty⟩ :=
    compose_eq_ok_iff.mpr ⟨rfl, rfl, rfl, rfl⟩
  have hquery := checkedQuery_of_compose hconfig hcompose
  have hforms : ∀ r ∈ (messagesOf [1] 0).records, r.HasForm :=
    fun r hr => (numbered_messagesOf [1] 0 r hr).hasForm
  have hlisting : (messagesOf [1] 0).listing ⟨none, config.defaultTake, none, .empty, .empty⟩ =
      [message 1] := List.mergeSort_singleton _
  have htake : config.defaultTake.toNat ≠ 0 :=
    fun e => (Config.validate_cases hconfig).2.1 (UInt32.toNat_inj.mp e)
  refine ⟨⟨none, config.defaultTake, none, .empty, .empty⟩, ?_⟩
  rw [paginate_cursor hforms hquery rfl, hlisting,
    List.take_of_length_le (Nat.one_le_iff_ne_zero.mpr htake)]
  rfl

/-- Under a valid configuration links can be built for all paths or for none. If they can, no request
fails for a URL unless its store does; if they cannot, even the first page of a single message fails. A
host that stands as it is has links. -/
theorem linkable_iff (hconfig : config.validate = .ok ()) :
    (∀ path echoed cursor lastId,
      (∃ link, nextLink config path echoed cursor lastId = .ok link) ↔ config.Linkable) ∧
    ((∀ path overrides params (store : MemoryStore),
      FailsWith Error.NotUrl (paginate config path overrides params store).1) ↔ config.Linkable) ∧
    (config.Linkable → ∀ {σ ρ : Type} [Store σ ρ], AnswersNoUrl σ →
      ∀ path overrides params (store : σ),
        FailsWith Error.NotUrl (paginate config path overrides params store).1) ∧
    AnswersNoUrl MemoryStore ∧ AnswersNoUrl TableStore ∧
    (config.HostStands → config.Linkable) := by
  refine ⟨exists_nextLink_iff hconfig, ⟨fun hall => ?_, fun hlinks path =>
    paginate_notUrl answersNoUrl hlinks path⟩, fun hlinks _ _ _ hstore path =>
    paginate_notUrl hstore hlinks path, answersNoUrl, TableStore.answersNoUrl,
    fun hhost => hhost.linkable hconfig⟩
  obtain ⟨query, hpage⟩ := paginate_single hconfig "messages"
  have hfirst := hall "messages" {} .empty (messagesOf [1] 0)
  rw [hpage] at hfirst
  refine (exists_nextLink_iff hconfig "messages" (echo .empty query)
    (cursorKey config query) 1).mp ?_
  cases hlink : nextLink config "messages" (echo .empty query) (cursorKey config query) 1 with
  | ok link => exact ⟨link, rfl⟩
  | error e =>
    obtain ⟨problem, rfl⟩ := failsWith_nextLink _ _ _ _ e hlink
    rw [hlink] at hfirst
    exact absurd rfl (hfirst _ rfl problem)

/-- A configuration whose host ends in a tab, of which nothing stays in a URL. -/
def tabEnded : Config := { host := "[::1]:8080\t", cursorOrderField := "id" }

/-- Its links can be built, whatever the path is. -/
theorem linkable_iff_tabEnded :
    tabEnded.validate = .ok () ∧ tabEnded.HostStands ∧
      (∃ link, nextLink tabEnded "/a b?c#d" [] cursorAfter 1 = .ok link) ∧
      FailsWith Error.NotUrl (paginate tabEnded "/a b?c#d" {} .empty (messagesOf [1] 0)).1 := by
  have hconfig : tabEnded.validate = .ok () := by
    obtain ⟨_, h⟩ := exists_eq_ok_of_toBool
      (show tabEnded.validate.toBool = true by decide +kernel)
    exact h
  have htab : tabEnded.host.toList.rtakeWhile Url.isOuter = ['\t'] := by decide
  have hhost : tabEnded.HostStands := by
    refine ⟨fun d hd => ?_, by decide⟩
    rw [htab, List.mem_singleton] at hd
    exact hd ▸ rfl
  obtain ⟨hlinks, hpages, -, -, -, hstands⟩ := linkable_iff hconfig
  exact ⟨hconfig, hhost, (hlinks _ _ _ _).mpr (hstands hhost), hpages.mpr (hstands hhost) _ _ _ _⟩

/-- A configuration whose host ends in a blank. -/
def blankEnded : Config := { host := "localhost:3000 " }

/-- A configuration with a lone at sign in the place of the host. -/
def loneAt : Config := { protocol := "custom", host := "@" }

/-- Both are valid, and neither can build a link: with a path behind it the blank is a part of the port,
and the at sign is followed by no host. A request for a message fails after it was put to the store. -/
theorem unlinkable_blankEnded :
    blankEnded.validate = .ok () ∧ loneAt.validate = .ok () ∧
      nextLink blankEnded "messages" [] cursorBefore 1 = .error (.url .invalidPort) ∧
      nextLink loneAt "messages" [] cursorBefore 1 = .error (.url .emptyHost) ∧
      paginate blankEnded "messages" {} .empty (messagesOf [1] 0) =
        (.error (.url .invalidPort), messagesOf [1] 1) := by
  have hvalid : ∀ c ∈ [blankEnded, loneAt], c.validate.toBool = true := by decide +kernel
  have hblank : Url.read (listingAddress blankEnded "messages") = .error .invalidPort := by
    decide +kernel
  have hat : Url.read (listingAddress loneAt "messages") = .error .emptyHost := by
    decide +kernel
  obtain ⟨_, hconfig⟩ := exists_eq_ok_of_toBool (hvalid blankEnded (by simp))
  obtain ⟨_, hconfig'⟩ := exists_eq_ok_of_toBool (hvalid loneAt (by simp))
  obtain ⟨query, hpage⟩ := paginate_single hconfig "messages"
  refine ⟨hconfig, hconfig', ?_, ?_, ?_⟩
  · rw [nextLink, hblank]
  · rw [nextLink, hat]
  · rw [hpage, nextLink, hblank]
    rfl

end MemoryStore

end PagedListing
