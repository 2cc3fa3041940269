import Mathlib.Data.List.Induction
import ServiceLocation.Proofs.Locator.Queries
import ServiceLocation.Proofs.Locator.ServerText

/-!
**The servers that a query is put to.**

They are listed one by one, and a server that is listed already is passed over.

* `distinct_concat`: what listing one more server does, from which the rest follows by induction;
* `nodup_distinct`, `mem_distinct_iff`, `idxOf_distinct_lt_iff`: **each server is listed once, no other
  is, and one stands before another if it comes first before it does**;
* `ResolveOptions.HasPrimary`: the server that the text of a call puts first;
* `Lists`, `lists_of_serverList`: what the list of a call is, told from that server and the locator's;
* `ResolveOptions.SamePrimary`: texts that put the same server first, since they differ in blanks;
* `servers_of_queries`: **every query of a call is put to that list, and blanks do not count.**
-/

namespace ServiceLocation

open ServiceLocation.Address ServiceLocation.Naptr ServiceLocation.Text

namespace Locator

/-! ### Listing servers once -/

section

variable {given : List Endpoint} {server first second : Endpoint}

/-- A server is listed behind the others, unless it is among them. -/
theorem distinct_concat (given : List Endpoint) (server : Endpoint) :
    distinct (given ++ [server]) =
      if server ∈ distinct given then distinct given else distinct given ++ [server] :=
  List.foldl_append

theorem mem_distinct_iff : server ∈ distinct given ↔ server ∈ given := by
  induction given using List.reverseRecOn with
  | nil => rfl
  | append_singleton given last ih =>
    rw [distinct_concat]
    by_cases listed : last ∈ distinct given
    · rw [if_pos listed, ih, List.mem_append, List.mem_singleton]
      refine ⟨.inl, ?_⟩
      rintro (before | rfl)
      · exact before
      · exact ih.1 listed
    · rw [if_neg listed, List.mem_append, List.mem_append, ih]

theorem nodup_distinct (given : List Endpoint) : (distinct given).Nodup := by
  induction given using List.reverseRecOn with
  | nil => exact List.nodup_nil
  | append_singleton given last ih =>
    rw [distinct_concat]
    by_cases listed : last ∈ distinct given
    · rwa [if_pos listed]
    · rw [if_neg listed, List.nodup_append]
      refine ⟨ih, by simp, fun server before server' is => ?_⟩
      rintro rfl
      exact listed (List.mem_singleton.1 is ▸ before)

/-- A server keeps its place when one more is listed. -/
theorem idxOf_distinct_concat (last : Endpoint) (occurs : server ∈ given) :
    (distinct (given ++ [last])).idxOf server = (distinct given).idxOf server := by
  rw [distinct_concat]
  split
  · rfl
  · rw [List.idxOf_append, if_pos (mem_distinct_iff.2 occurs)]

/-- A server that has not occurred is listed last. -/
theorem idxOf_distinct_concat_self (new : server ∉ given) :
    (distinct (given ++ [server])).idxOf server = (distinct given).length := by
  have unlisted : server ∉ distinct given := mt mem_distinct_iff.1 new
  rw [distinct_concat, if_neg unlisted, List.idxOf_append, if_neg unlisted]
  simp

theorem idxOf_distinct_lt_length (occurs : server ∈ given) :
    (distinct given).idxOf server < (distinct given).length :=
  List.idxOf_lt_length_iff.2 (mem_distinct_iff.2 occurs)

/-- **Servers are listed in the order in which they first occur.** -/
theorem idxOf_distinct_lt_iff (occurs : first ∈ given) (occurs' : second ∈ given) :
    (distinct given).idxOf first < (distinct given).idxOf second ↔
      given.idxOf first < given.idxOf second := by
  induction given using List.reverseRecOn with
  | nil => cases occurs
  | append_singleton given last ih =>
    have isLast : ∀ server ∈ given ++ [last], server ∉ given → server = last := by
      intro server member new
      exact List.mem_singleton.1 ((List.mem_append.1 member).resolve_left new)
    -- A server that has not occurred is behind all others, in the list and in what is given.
    by_cases before : first ∈ given <;> by_cases before' : second ∈ given
    · rw [idxOf_distinct_concat last before, idxOf_distinct_concat last before', List.idxOf_append,
        List.idxOf_append, if_pos before, if_pos before', ih before before']
    · obtain rfl := isLast second occurs' before'
      have listed := idxOf_distinct_lt_length before
      have given := List.idxOf_lt_length_iff.2 before
      rw [idxOf_distinct_concat second before, idxOf_distinct_concat_self before', List.idxOf_append,
        List.idxOf_append, if_pos before, if_neg before']
      omega
    · obtain rfl := isLast first occurs before
      have listed := idxOf_distinct_lt_length before'
      have given := List.idxOf_lt_length_iff.2 before'
      rw [idxOf_distinct_concat first before', idxOf_distinct_concat_self before, List.idxOf_append,
        List.idxOf_append, if_neg before, if_pos before']
      omega
    · obtain rfl := isLast first occurs before
      obtain rfl := isLast second occurs' before'
      simp

/-- Listing servers once keeps their first occurrences. -/
theorem distinct_eq_eraseDups (given : List Endpoint) : distinct given = given.eraseDups := by
  induction given using List.reverseRecOn with
  | nil => rfl
  | append_singleton given last ih =>
    rw [distinct_concat, List.eraseDups_append, ← ih]
    by_cases listed : last ∈ distinct given
    · simp [List.removeAll, listed, mem_distinct_iff.1 listed]
    · have new : last ∉ given := mt mem_distinct_iff.2 listed
      simp [List.removeAll, listed, new, List.eraseDups_cons]

end

end Locator

/-! ### The server that is asked first -/

namespace ResolveOptions

/-- The server that the text of a call puts first: none if there is no text or a blank one, and else
the server that it writes. -/
inductive HasPrimary (options : ResolveOptions) : Option Endpoint → Prop where
  | absent (missing : options.primary = none) : HasPrimary options none
  | blank {text : String} (given : options.primary = some text)
    (blank : ∀ c ∈ text.toList, isBlank c = true) : HasPrimary options none
  | server {text : String} {server : Endpoint} (given : options.primary = some text)
    (read : Endpoint.ofText? text = some server) : HasPrimary options (some server)

/-- Texts of a first server that differ in the blanks around them alone, or are blank or missing. -/
inductive SamePrimary : Option String → Option String → Prop where
  | spaced {text text' : String} (differ : DifferInBlanks text.toList text'.toList) :
    SamePrimary (some text) (some text')
  | blank {text : String} (blank : ∀ c ∈ text.toList, isBlank c = true) :
    SamePrimary (some text) none
  | absent {text : String} (blank : ∀ c ∈ text.toList, isBlank c = true) :
    SamePrimary none (some text)

variable {options options' : ResolveOptions}

theorem trimmed_eq_empty_iff {text : String} :
    trimmed text = "" ↔ ∀ c ∈ text.toList, isBlank c = true := by
  rw [← trim_eq_nil_iff, ← toList_trimmed, ← String.toList_inj]
  rfl

theorem primaryText_of_blank {text : String} (given : options.primary = some text)
    (blank : ∀ c ∈ text.toList, isBlank c = true) : options.primaryText = none := by
  rw [primaryText, given, Option.map_some, trimmed_eq_empty_iff.2 blank]
  rfl

theorem primaryText_of_absent (missing : options.primary = none) : options.primaryText = none := by
  rw [primaryText, missing]
  rfl

/-- **Blanks around the text of the first server do not count.** -/
theorem primaryText_eq_of_samePrimary (same : SamePrimary options.primary options'.primary) :
    options.primaryText = options'.primaryText := by
  generalize given : options.primary = first at same
  generalize given' : options'.primary = second at same
  cases same with
  | spaced differ =>
    have texts : trimmed _ = trimmed _ :=
      congrArg String.ofList (trim_eq_of_differInBlanks differ)
    rw [primaryText, primaryText, given, given', Option.map_some, Option.map_some, texts]
  | blank blank => rw [primaryText_of_blank given blank, primaryText_of_absent given']
  | absent blank => rw [primaryText_of_absent given, primaryText_of_blank given' blank]

end ResolveOptions

namespace Locator

section

variable {locator : Locator} {options : ResolveOptions} {primary : Option Endpoint}
  {servers : List Endpoint}

/-! ### The list of a call -/

/-- The servers of a call: the one that is put first, then those of the locator, each where it first
occurs. -/
structure Lists (locator : Locator) (primary : Option Endpoint) (servers : List Endpoint) : Prop where
  eq_eraseDups : servers = (primary.toList ++ locator.servers).eraseDups
  nodup : servers.Nodup
  mem_iff : ∀ server, server ∈ servers ↔ primary = some server ∨ server ∈ locator.servers
  head : ∀ server, primary = some server → servers.head? = some server
  /-- The other servers keep the order in which the locator has them. -/
  order : ∀ first ∈ locator.servers, ∀ second ∈ locator.servers,
    primary ≠ some first → primary ≠ some second →
      (servers.idxOf first < servers.idxOf second ↔
        locator.servers.idxOf first < locator.servers.idxOf second)

theorem lists_distinct (locator : Locator) (primary : Option Endpoint) :
    locator.Lists primary (distinct (primary.toList ++ locator.servers)) := by
  constructor
  · exact distinct_eq_eraseDups _
  · exact nodup_distinct _
  · intro server
    rw [mem_distinct_iff, List.mem_append, Option.mem_toList]
  · rintro server rfl
    rw [distinct_eq_eraseDups, Option.toList_some, List.singleton_append, List.eraseDups_cons]
    rfl
  · intro first occurs second occurs' other other'
    rw [idxOf_distinct_lt_iff (List.mem_append_right _ occurs) (List.mem_append_right _ occurs')]
    cases primary with
    | none => rfl
    | some server =>
      have behind : ∀ server', some server ≠ some server' →
          (server :: locator.servers).idxOf server' = locator.servers.idxOf server' + 1 :=
        fun server' ne => List.idxOf_cons_ne _ fun same => ne (congrArg some same)
      rw [Option.toList_some, List.singleton_append, behind first other, behind second other']
      exact Nat.add_lt_add_iff_right

/-- **A list that a call gets is made of the server that its text puts first and the locator's.** -/
theorem lists_of_serverList (listed : locator.serverList options.primaryText = .ok servers) :
    ∃ primary, options.HasPrimary primary ∧ locator.Lists primary servers := by
  cases is : options.primaryText with
  | none =>
    rw [is] at listed
    rw [← Except.ok.inj listed]
    refine ⟨none, ?_, lists_distinct locator none⟩
    cases given : options.primary with
    | none => exact .absent given
    | some text =>
      rw [ResolveOptions.primaryText, given, Option.map_some, Option.filter_eq_none_iff] at is
      have empty : trimmed text = "" := by simpa using is
      exact .blank given (ResolveOptions.trimmed_eq_empty_iff.1 empty)
  | some text =>
    rw [is] at listed
    obtain ⟨server, read, same⟩ := bind_eq_ok_iff.1 listed
    obtain ⟨raw, given, rfl⟩ := Option.map_eq_some_iff.1 (Option.filter_eq_some_iff.1 is).1
    have found : Endpoint.ofText? raw = some server := by
      have found := readServer_eq_ok_iff.1 read
      rwa [Endpoint.ofText?, toList_trimmed, trim_trim] at found
    rw [← Except.ok.inj same]
    exact ⟨some server, .server given found, lists_distinct locator (some server)⟩

end

/-- **Every query of a call is put to the same servers**, repetitions included: the one that the call's
text puts first, then those of the locator in their order, each of them once. **Blanks around that text
do not count**, nor does a blank text: list, key and answer are the same, and so is all that a call
leaves behind. -/
theorem servers_of_queries (locator : Locator) (network : Network) (participant : Participant)
    (zone : String) (options : ResolveOptions) (memory : Memory) :
    (∃ queries, (locator.resolveWith network participant zone options memory).2.asked =
        memory.asked ++ queries ∧
      ∀ query ∈ queries, ∃ primary, options.HasPrimary primary ∧
        locator.Lists primary query.servers) ∧
    ∀ options', options'.useNaptr = options.useNaptr →
      ResolveOptions.SamePrimary options.primary options'.primary →
      locator.serverList options'.primaryText = locator.serverList options.primaryText ∧
        (∀ name service, Cache.key name service options'.primaryText =
          Cache.key name service options.primaryText) ∧
        ∀ network memory, locator.resolveWith network participant zone options' memory =
          locator.resolveWith network participant zone options memory := by
  constructor
  · rcases settled_or_misses locator participant zone options memory.cache with
      ⟨result, settled⟩ | ⟨name, service, servers, misses⟩
    · rw [resolveWith_of_settled settled]
      exact ⟨[], (List.append_nil _).symm, List.forall_mem_nil _⟩
    · obtain ⟨count, _, _, asked⟩ := exists_asked_of_misses network misses
      refine ⟨_, asked, fun query member => ?_⟩
      rw [List.eq_of_mem_replicate member]
      exact lists_of_serverList misses.asks.listed
  · intro options' useNaptr same
    have texts : options.primaryText = options'.primaryText :=
      ResolveOptions.primaryText_eq_of_samePrimary same
    have targets : locator.target? options' = locator.target? options := by
      rw [target?, target?, useNaptr]
    refine ⟨by rw [texts], fun name service => by rw [texts], fun network memory => ?_⟩
    unfold resolveWith
    rw [targets, texts]

/-- A locator with three servers, of which two are the same. -/
def threeServers : Locator :=
  { ofPreset .esens with servers :=
      [.v4 ⟨192, 0, 2, 1⟩ dnsPort, .v6 (.ofList [0, 0, 0, 0, 0, 0, 0, 1]) dnsPort 0,
        .v4 ⟨192, 0, 2, 1⟩ dnsPort] }

theorem dnsName_threeServers : threeServers.dnsName (.ofValue "abc") "example.org" =
    .ok (String.ofList ((Naming.label (ofPreset .esens).lowercase "abc").toList ++
      '.' :: "example.org".toList)) :=
  dnsName_of_isVerbatim rfl (by decide) (by decide) (by decide)

/-- A call puts one of the locator's servers first, by a text between blanks. -/
theorem servers_of_queries_of_spaced :
    (∃ query ∈ (threeServers.resolveWith .empty (.ofValue "abc") "example.org"
        { useNaptr := true, primary := some " ::1\t" } .empty).2.asked,
      query.servers =
        [.v6 (.ofList [0, 0, 0, 0, 0, 0, 0, 1]) dnsPort 0, .v4 ⟨192, 0, 2, 1⟩ dnsPort]) ∧
      threeServers.resolveWith .empty (.ofValue "abc") "example.org"
          { useNaptr := true, primary := some "::1" } .empty =
        threeServers.resolveWith .empty (.ofValue "abc") "example.org"
          { useNaptr := true, primary := some " ::1\t" } .empty := by
  obtain ⟨⟨queries, asked, every⟩, blanks⟩ := servers_of_queries threeServers .empty (.ofValue "abc")
    "example.org" { useNaptr := true, primary := some " ::1\t" } .empty
  have misses : threeServers.Misses (.ofValue "abc") "example.org"
      { useNaptr := true, primary := some " ::1\t" } Memory.empty.cache _ metadataService _ :=
    ⟨⟨dnsName_threeServers, rfl, rfl⟩, fun _ => Cache.get?_empty _⟩
  have made : queries ≠ [] := by
    rintro rfl
    exact asked_ne_of_misses misses asked
  obtain ⟨query, rest, rfl⟩ := List.exists_cons_of_ne_nil made
  constructor
  · obtain ⟨primary, has, lists⟩ := every query List.mem_cons_self
    refine ⟨query, asked.symm ▸ List.mem_cons_self, ?_⟩
    cases has with
    | absent missing => cases missing
    | blank given blank =>
      rw [← Option.some.inj given] at blank
      exact absurd (blank ':' (by decide)) (by decide)
    | server given read =>
      have found : Endpoint.ofText? " ::1\t" =
          some (.v6 (.ofList [0, 0, 0, 0, 0, 0, 0, 1]) dnsPort 0) := by decide
      rw [← Option.some.inj given, found] at read
      rw [lists.eq_eraseDups, ← read]
      decide
  · have spaced : ResolveOptions.SamePrimary (some " ::1\t") (some "::1") :=
      .spaced ⟨"::1".toList, [' '], ['\t'], [], [], by decide, by decide,
        List.all_eq_true.1 (by decide)⟩
    exact (blanks { useNaptr := true, primary := some "::1" } rfl spaced).2.2 .empty .empty

end Locator

end ServiceLocation
