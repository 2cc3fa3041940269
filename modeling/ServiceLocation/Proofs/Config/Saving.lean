import ServiceLocation.Config
import ServiceLocation.Proofs.Result
import ServiceLocation.Proofs.Toml.Written

/-!
**Configurations are saved and loaded.**

A configuration is written as lines with a key and a value each, of which some are left out. Each line is
read back, and what is left out is what a configuration has without it.

* `Config.Members`: the lines of a table; `Members.entries`: what stands in it;
* `Members.readLoop_lines`: **the lines are read back**, each under its key; `Members.field_entries`: what
  the table has there;
* `Config.members`, `Config.resolverMembers`: the lines of a configuration;
* `Config.ofToml_toToml`: **a configuration is read back** from its text, if its numbers can be written;
* `Config.fits_of_ofToml`: those of one that was read can be;
* `Config.saved_and_loaded`: **so whatever is read can be saved and loaded**.
-/

namespace ServiceLocation.Config

open ServiceLocation.Text ServiceLocation.Toml

/-! ### Lines -/

/-- The lines of a table in their order: a key each, and the text of its value with the value, unless the
line is left out. -/
abbrev Members := List (String × Option (List Char × Value))

namespace Members

/-- The text of the lines. -/
def lines (members : Members) : List Char :=
  members.flatMap fun member => optionalLine member.1 Prod.fst member.2

/-- What stands under the keys. -/
def entries (members : Members) : List (String × Value) :=
  members.filterMap fun member => member.2.map fun written => (member.1, written.2)

/-- Lines with keys that need no quotes, no two of them the same, and with texts that stand for their
values. -/
structure Sound (members : Members) : Prop where
  bare : ∀ member ∈ members, IsBare member.1.toList
  stand : ∀ member ∈ members, ∀ written ∈ member.2, StandsFor depthLimit written.1 written.2
  distinct : (members.map Prod.fst).Nodup

theorem Sound.of_cons {member : String × Option (List Char × Value)} {members : Members}
    (sound : Sound (member :: members)) : Sound members where
  bare other listed := sound.bare other (List.mem_cons_of_mem _ listed)
  stand other listed := sound.stand other (List.mem_cons_of_mem _ listed)
  distinct := (List.nodup_cons.1 sound.distinct).2

/-- What stands under a key is what its line says. -/
theorem lookup_entries {members : Members} (distinct : (members.map Prod.fst).Nodup) (key : String) :
    members.entries.lookup key = (members.lookup key).bind (·.map Prod.snd) := by
  induction members with
  | nil => rfl
  | cons member members ih =>
    obtain ⟨other, written⟩ := member
    obtain ⟨new, distinct⟩ := List.nodup_cons.1 distinct
    have later := ih distinct
    by_cases same : key = other
    · subst same
      have missing : members.lookup key = none := by
        refine List.lookup_eq_none_iff.2 fun member listed => bne_iff_ne.2 fun is => ?_
        exact new (List.mem_map.2 ⟨member, listed, is.symm⟩)
      rw [missing, Option.bind_none] at later
      cases written with
      | none => simpa [entries, List.lookup_cons] using later
      | some written => simp [entries]
    · have differs : (key == other) = false := beq_false_of_ne same
      cases written with
      | none => simpa [entries, List.lookup_cons, differs] using later
      | some written => simpa [entries, List.lookup_cons, differs] using later

/-- **The lines of a table are read back.** -/
theorem readLoop_lines {place : List (String × Value) → Document} (adds : Adds place)
    {members : Members} (sound : members.Sound) (before : List (String × Value))
    (new : ∀ member ∈ members, before.lookup member.1 = none) (rest : List Char) :
    readLoop lineStep (place before) (members.lines ++ rest) =
      readLoop lineStep (place (before ++ members.entries)) rest := by
  -- Every line is added behind those before it, among which its key is not.
  induction members generalizing before with
  | nil => simp [lines, entries]
  | cons member members ih =>
    obtain ⟨key, written⟩ := member
    obtain ⟨here, later⟩ := List.forall_mem_cons.1 new
    cases written with
    | none => exact ih sound.of_cons before later
    | some written =>
      have bare := sound.bare _ List.mem_cons_self
      have stands := sound.stand _ List.mem_cons_self written rfl
      have defines := adds before key written.2 here
      have whole : lines ((key, some written) :: members) ++ rest =
          key.toList ++ (" = ".toList ++ (written.1 ++ '\n' :: (lines members ++ rest))) := by
        simp [lines, optionalLine, line]
      have apart : ∀ member ∈ members,
          (before ++ [(key, written.2)]).lookup member.1 = none := by
        intro member listed
        have differs : (member.1 == key) = false := beq_false_of_ne fun is =>
          (List.nodup_cons.1 sound.distinct).1 (List.mem_map.2 ⟨member, listed, is⟩)
        simp [List.lookup_append, later member listed, List.lookup_cons, differs]
      rw [← String.ofList_toList (s := key)] at defines
      rw [whole, readLoop_of_more (lineStep_pair bare _ stands defines) (by simp +arith),
        String.ofList_toList, ih sound.of_cons _ apart]
      simp [entries]

/-- A key has the value of its line, and if that is left out the fallback. -/
theorem field_entries {members : Members} (distinct : (members.map Prod.fst).Nodup)
    (key : String) {written : Option (List Char × Value)}
    (listed : members.lookup key = some written) {after : List (String × Value)}
    (unused : after.lookup key = none) {α : Type} (fallback : α) (read : Value → Option α) :
    field (members.entries ++ after) key fallback read =
      (written.map fun written => read written.2).getD (some fallback) := by
  have found := lookup_entries distinct key
  rw [listed, Option.bind_some] at found
  unfold field
  cases written <;> simp [List.lookup_append, found, unused]

/-- A key whose line is left out without a value has the value of its line, if there is one. -/
theorem field_optional {members : Members} (distinct : (members.map Prod.fst).Nodup) (key : String)
    {α : Type} {value : Option α} {write : α → List Char × Value}
    (listed : members.lookup key = some (value.map write)) {after : List (String × Value)}
    (unused : after.lookup key = none) {read : Value → Option (Option α)}
    (back : ∀ a, read (write a).2 = some (some a)) :
    field (members.entries ++ after) key none read = some value := by
  rw [field_entries distinct key listed unused]
  cases value with
  | none => rfl
  | some a => exact back a

end Members

/-! ### The lines of a configuration -/

section

variable (config : Config)

/-- The lines of a configuration but its table. -/
def members : Members :=
  [(presetKey, some (writeText config.preset.name, .string config.preset.name)),
    (lowercaseKey, config.lowercase.map fun flag => (writeFlag flag, .boolean flag)),
    (addSchemeKey, config.addScheme.map fun flag => (writeFlag flag, .boolean flag)),
    (useCacheKey, config.useCache.map fun flag => (writeFlag flag, .boolean flag)),
    (serversKey, some (writeTexts config.servers, .array (config.servers.map .string))),
    (labelPrefixKey, some (writeText config.labelPrefix, .string config.labelPrefix)),
    (smlKey, config.smlId.map fun id => (writeText id, .string id))]

/-- The lines of its table. -/
def resolverMembers : Members :=
  [(queryTimeoutKey, some (writeNatural config.queryTimeoutMillis.toNat,
      .integer (.ofInt config.queryTimeoutMillis.toNat))),
    (maxTryAgainKey, some (writeNatural config.maxTryAgain.toNat,
      .integer (.ofInt config.maxTryAgain.toNat)))]

/-- What stands under the keys of its text. -/
def entries : List (String × Value) :=
  config.members.entries ++ [(resolverKey, .table config.resolverMembers.entries)]

theorem toList_toToml :
    config.toToml.toList = config.members.lines ++
      ('\n' :: '[' :: (resolverKey.toList ++ ']' :: '\n' :: (config.resolverMembers.lines ++ []))) := by
  unfold toToml
  rw [String.toList_ofList]
  simp [Members.lines, members, resolverMembers, optionalLine, Function.comp_def]

theorem standsFor_text (room : Nat) (text : String) :
    StandsFor room (writeText text) (.string text) := by
  have stands := standsFor_string room text.toList
  rw [String.ofList_toList] at stands
  exact stands

theorem standsFor_texts (room : Nat) (texts : List String) :
    StandsFor (room + 1) (writeTexts texts) (.array (texts.map .string)) := by
  have each : ∀ item ∈ texts.map fun text => (writeText text, Value.string text),
      StandsFor room item.1 item.2 := by
    intro item listed
    obtain ⟨text, _, rfl⟩ := List.mem_map.1 listed
    exact standsFor_text room text
  simpa [writeTexts, Function.comp_def] using standsFor_array each

/-- What stands for each value stands for the one that may be there. -/
theorem stand_map {α : Type} (write : α → List Char × Value)
    (stand : ∀ a, StandsFor depthLimit (write a).1 (write a).2) (value : Option α) :
    ∀ written ∈ value.map write, StandsFor depthLimit written.1 written.2 := by
  intro written is
  obtain ⟨a, _, rfl⟩ := Option.map_eq_some_iff.1 is
  exact stand a

theorem stand_some {written : List Char × Value}
    (stands : StandsFor depthLimit written.1 written.2) :
    ∀ other ∈ some written, StandsFor depthLimit other.1 other.2 := by
  rintro other ⟨⟩
  exact stands

/-- The keys of a configuration but those of its table. -/
def memberKeys : List String :=
  [presetKey, lowercaseKey, addSchemeKey, useCacheKey, serversKey, labelPrefixKey, smlKey]

/-- The keys of its table. -/
def resolverMemberKeys : List String := [queryTimeoutKey, maxTryAgainKey]

theorem isBare_of_mem {key : String} (listed : key ∈ memberKeys ++ resolverKey :: resolverMemberKeys) :
    IsBare key.toList := by
  have all : (memberKeys ++ resolverKey :: resolverMemberKeys).all (fun key =>
      !key.toList.isEmpty && key.toList.all inBareKey) = true := by decide +kernel
  have bare := List.all_eq_true.1 all key listed
  rw [Bool.and_eq_true, Bool.not_eq_true', List.isEmpty_eq_false_iff, List.all_eq_true] at bare
  exact ⟨bare.1, bare.2⟩

theorem sound_members : config.members.Sound where
  bare member listed := by
    have isKey : member.1 ∈ memberKeys := List.mem_map_of_mem (f := Prod.fst) listed
    exact isBare_of_mem (List.mem_append_left _ isKey)
  stand := by
    simp only [members, List.forall_mem_cons]
    have flag := stand_map (fun flag => (writeFlag flag, .boolean flag)) (standsFor_flag depthLimit)
    exact ⟨stand_some (standsFor_text _ _), flag config.lowercase, flag config.addScheme,
      flag config.useCache, stand_some (standsFor_texts _ _), stand_some (standsFor_text _ _),
      stand_map (fun id => (writeText id, .string id)) (standsFor_text depthLimit) config.smlId,
      List.forall_mem_nil _⟩
  distinct := by
    show memberKeys.Nodup
    decide +kernel

/-- The numbers of a configuration are integers of 64 bits. -/
def Fits : Prop :=
  (int64? config.queryTimeoutMillis.toNat).isSome ∧ (int64? config.maxTryAgain.toNat).isSome

theorem int64?_of_isSome {number : Int} (fits : (int64? number).isSome) :
    int64? number = some (.ofInt number) := by
  obtain ⟨value, is⟩ := Option.isSome_iff_exists.1 fits
  rw [is, ← int64?_eq_some_iff.1 is, Int64.ofInt_toInt]

theorem sound_resolverMembers (fits : config.Fits) : config.resolverMembers.Sound where
  bare member listed := by
    have isKey : member.1 ∈ resolverMemberKeys := List.mem_map_of_mem (f := Prod.fst) listed
    exact isBare_of_mem (List.mem_append_right _ (List.mem_cons_of_mem _ isKey))
  stand := by
    simp only [resolverMembers, List.forall_mem_cons]
    exact ⟨stand_some (standsFor_number _ (int64?_of_isSome fits.1)),
      stand_some (standsFor_number _ (int64?_of_isSome fits.2)), List.forall_mem_nil _⟩
  distinct := by
    show resolverMemberKeys.Nodup
    decide +kernel

theorem lookup_resolverKey : config.members.entries.lookup resolverKey = none := by
  rw [Members.lookup_entries config.sound_members.distinct]
  rfl

/-- **The text of a configuration is read line by line.** -/
theorem read?_toToml (fits : config.Fits) :
    Toml.read? config.toToml.toList = some config.entries := by
  have header : openTable [] (.ofList resolverKey.toList) (plain config.members.entries) =
      some (plain config.members.entries ++ [(resolverKey, .table .header [])]) := by
    have free := lookup_plain config.members.entries resolverKey
    rw [lookup_resolverKey, Option.map_none] at free
    rw [String.ofList_toList]
    unfold openTable edit
    simp [free]
  have bare := isBare_of_mem (List.mem_append_right memberKeys List.mem_cons_self)
  have loop := calc
    readLoop lineStep { entries := [], current := [] } config.toToml.toList
      = readLoop lineStep { entries := plain config.members.entries, current := [] }
          ('\n' :: '[' :: (resolverKey.toList ++ ']' :: '\n' ::
            (config.resolverMembers.lines ++ []))) := by
        rw [toList_toToml]
        exact Members.readLoop_lines adds_top config.sound_members [] (fun _ _ => rfl) _
    _ = readLoop lineStep { entries := plain config.members.entries, current := [] }
          ('[' :: (resolverKey.toList ++ ']' :: '\n' :: (config.resolverMembers.lines ++ []))) :=
        readLoop_of_more (lineStep_empty _ _) (by simp)
    _ = readLoop lineStep
          { entries := plain config.members.entries ++ [(resolverKey, .table .header (plain []))]
            current := [resolverKey] } (config.resolverMembers.lines ++ []) := by
        rw [readLoop_of_more (lineStep_header bare _ header) (by simp +arith), String.ofList_toList]
        rfl
    _ = readLoop lineStep
          { entries := plain config.members.entries ++
              [(resolverKey, .table .header (plain config.resolverMembers.entries))]
            current := [resolverKey] } [] :=
        Members.readLoop_lines (adds_table config.lookup_resolverKey)
          (config.sound_resolverMembers fits) [] (fun _ _ => rfl) _
    _ = _ := readLoop_of_done rfl
  have noMark : skipMark config.toToml.toList = config.toToml.toList := by
    have first : presetKey.toList = 'p' :: "reset".toList := by decide +kernel
    rw [toList_toToml]
    simp only [Members.lines, members, List.flatMap_cons, optionalLine, line, Option.map_some,
      Option.getD_some, first, List.cons_append]
    rfl
  have values : entryValues (plain config.members.entries ++
      [(resolverKey, .table .header (plain config.resolverMembers.entries))]) = config.entries := by
    rw [entryValues_append, entryValues_plain, entries]
    simp [entryValues, Node.toValue, entryValues_plain]
  rw [Toml.read?, noMark, loop, ← values]
  rfl

theorem readNatural_ofInt {number limit : Nat} (fits : (int64? number).isSome)
    (below : number < limit) : readNatural limit (.integer (.ofInt number)) = some number := by
  have value := int64?_eq_some_iff.1 (int64?_of_isSome fits)
  rw [readNatural, value, if_pos ⟨Int.natCast_nonneg _, Int.ofNat_lt.2 below⟩]
  rfl

theorem readBounds_resolverMembers (fits : config.Fits) :
    readBounds (.table config.resolverMembers.entries) =
      some { queryTimeoutMillis := config.queryTimeoutMillis, maxTryAgain := config.maxTryAgain } := by
  have millis : readMillis (.integer (.ofInt config.queryTimeoutMillis.toNat)) =
      some config.queryTimeoutMillis := by
    rw [readMillis, readNatural_ofInt fits.1 config.queryTimeoutMillis.toNat_lt, Option.map_some,
      UInt64.ofNat_toNat]
  have repetitions : readRepetitions (.integer (.ofInt config.maxTryAgain.toNat)) =
      some config.maxTryAgain := by
    rw [readRepetitions, readNatural_ofInt fits.2 config.maxTryAgain.toNat_lt, Option.map_some,
      UInt32.ofNat_toNat]
  have distinct := (config.sound_resolverMembers fits).distinct
  have queryTimeout : field (config.resolverMembers.entries ++ []) queryTimeoutKey
      ResolverBounds.standard.queryTimeoutMillis readMillis = some config.queryTimeoutMillis := by
    rw [Members.field_entries distinct queryTimeoutKey rfl rfl]
    exact millis
  have maxTryAgain : field (config.resolverMembers.entries ++ []) maxTryAgainKey
      ResolverBounds.standard.maxTryAgain readRepetitions = some config.maxTryAgain := by
    rw [Members.field_entries distinct maxTryAgainKey rfl rfl]
    exact repetitions
  rw [List.append_nil] at queryTimeout maxTryAgain
  rw [readBounds, queryTimeout, maxTryAgain]
  rfl

/-- **A configuration is what its entries say.** -/
theorem ofTable?_entries (fits : config.Fits) : ofTable? config.entries = some config := by
  have bounds : field config.entries resolverKey ResolverBounds.standard readBounds =
      some ⟨config.queryTimeoutMillis, config.maxTryAgain⟩ := by
    rw [← readBounds_resolverMembers config fits]
    simp [field, entries, List.lookup_append, lookup_resolverKey]
  have servers : readTexts (.array (config.servers.map .string)) = some config.servers := by
    rw [readTexts, List.mapM_map]
    exact (mapM_of_forall fun _ _ => rfl).trans (congrArg some (List.map_id _))
  have distinct := config.sound_members.distinct
  rw [ofTable?, bounds, entries, Members.field_entries distinct presetKey rfl rfl,
    Members.field_optional distinct lowercaseKey rfl rfl fun _ => rfl,
    Members.field_optional distinct addSchemeKey rfl rfl fun _ => rfl,
    Members.field_optional distinct useCacheKey rfl rfl fun _ => rfl,
    Members.field_entries distinct serversKey rfl rfl,
    Members.field_entries distinct labelPrefixKey rfl rfl,
    Members.field_optional distinct smlKey rfl rfl fun _ => rfl]
  simp [readPreset, servers, readText]

/-- **A configuration is read back from its text.** -/
theorem ofToml_toToml (fits : config.Fits) : ofToml config.toToml = .ok config := by
  rw [ofToml, read?_toToml config fits, Option.bind_some, ofTable?_entries config fits]

end

/-! ### Numbers of configurations that were read -/

section

variable {config : Config}

/-- What is read under a key is the fallback, or is read from a value. -/
theorem of_field {α : Type} {entries : List (String × Value)} {key : String} {fallback result : α}
    {read : Value → Option α} (is : field entries key fallback read = some result) :
    result = fallback ∨ ∃ value, read value = some result := by
  unfold field at is
  split at is
  · exact .inl (Option.some.inj is).symm
  · exact .inr ⟨_, is⟩

theorem of_item {α : Type} {items : List Value} {place : Nat} {fallback result : α}
    {read : Value → Option α} (is : item items place fallback read = some result) :
    result = fallback ∨ ∃ value, read value = some result := by
  unfold item at is
  split at is
  · exact .inl (Option.some.inj is).symm
  · exact .inr ⟨_, is⟩

theorem fits_of_readMillis {value : Value} {millis : UInt64} (read : readMillis value = some millis) :
    (int64? millis.toNat).isSome := by
  obtain ⟨number, natural, rfl⟩ := Option.map_eq_some_iff.1 read
  unfold readNatural at natural
  split at natural
  · rename_i integer
    obtain ⟨⟨positive, below⟩, same⟩ := Option.ite_none_right_eq_some.1 natural
    have is : ((UInt64.ofNat number).toNat : Int) = integer.toInt := by
      rw [← Option.some.inj same, UInt64.toNat_ofNat_of_lt' (by omega), Int.toNat_of_nonneg positive]
    rw [is, int64?_toInt]
    rfl
  · cases natural

/-- The time that one server is given is read from an integer of 64 bits, if it is not the usual one. -/
theorem fits_of_readBounds {value : Value} {bounds : ResolverBounds}
    (read : readBounds value = some bounds) : (int64? bounds.queryTimeoutMillis.toNat).isSome := by
  have usual : (int64? ResolverBounds.standard.queryTimeoutMillis.toNat).isSome := by decide
  have fits (millis : UInt64) (is : millis = ResolverBounds.standard.queryTimeoutMillis ∨
      ∃ value, readMillis value = some millis) : (int64? millis.toNat).isSome := by
    rcases is with rfl | ⟨value, read⟩
    · exact usual
    · exact fits_of_readMillis read
  unfold readBounds at read
  split at read
  · obtain ⟨millis, queryTimeout, read⟩ := Option.bind_eq_some_iff.1 read
    obtain ⟨repetitions, _, read⟩ := Option.bind_eq_some_iff.1 read
    obtain rfl := Option.some.inj read
    exact fits millis (of_field queryTimeout)
  · obtain ⟨millis, queryTimeout, read⟩ := Option.bind_eq_some_iff.1 read
    obtain ⟨repetitions, _, read⟩ := Option.bind_eq_some_iff.1 read
    obtain rfl := Option.some.inj read
    exact fits millis (of_item queryTimeout)
  · cases read

theorem fits_of_uint32 (number : UInt32) : (int64? number.toNat).isSome := by
  have below := number.toNat_lt
  rw [int64?, Int64.toInt_minValue, Int64.toInt_maxValue, if_pos (by omega)]
  rfl

theorem fits_of_ofTable? {entries : List (String × Value)} (read : ofTable? entries = some config) :
    config.Fits := by
  obtain ⟨bounds, found, rest⟩ := Option.bind_eq_some_iff.1 read
  have same : config.queryTimeoutMillis = bounds.queryTimeoutMillis := by
    simp only [Option.bind_eq_bind, Option.bind_eq_some_iff, Option.some.injEq] at rest
    obtain ⟨_, _, _, _, _, _, _, _, _, _, _, _, _, _, rfl⟩ := rest
    rfl
  refine ⟨?_, fits_of_uint32 _⟩
  rw [same]
  rcases of_field found with rfl | ⟨value, read⟩
  · decide
  · exact fits_of_readBounds read

theorem fits_of_ofToml {text : String} (read : ofToml text = .ok config) : config.Fits := by
  unfold ofToml at read
  split at read
  · rename_i found
    obtain ⟨entries, _, table⟩ := Option.bind_eq_some_iff.1 found
    exact fits_of_ofTable? (Except.ok.inj read ▸ table)
  · cases read

/-- **The configurations that a text can give** are those whose numbers can be written. -/
theorem exists_ofToml_iff : (∃ text, ofToml text = .ok config) ↔ config.Fits :=
  ⟨fun ⟨_, read⟩ => fits_of_ofToml read, fun fits => ⟨config.toToml, ofToml_toToml config fits⟩⟩

end

/-- **Whatever is read can be saved and loaded.** -/
theorem saved_and_loaded (text : String) (config : Config) (read : ofToml text = .ok config) :
    ∃ saved, config.toToml? = some saved ∧ ofToml saved = .ok config :=
  have fits := fits_of_ofToml read
  ⟨config.toToml, if_pos fits, ofToml_toToml config fits⟩

/-- With a text that was written by hand: a comment, a number in another base, and a key that is passed
over. -/
theorem saved_and_loaded_of_bpc :
    let text := "preset = 'bpc-smp2'\nuse_dns_cache = true # for this network\n" ++
      "custom_dns_servers = [\"10.0.0.1:53\", '::1']\nsecure = false\n[resolver]\nmax_try_again = 0x10\n"
    let config : Config :=
      { standard with preset := .bpcSmp2, useCache := some true, servers := ["10.0.0.1:53", "::1"]
                      maxTryAgain := 16 }
    ofToml text = .ok config ∧
      ∃ saved, config.toToml? = some saved ∧ ofToml saved = .ok config := by
  intro text config
  have read : ofToml text = .ok config := by decide +kernel +revert
  exact ⟨read, saved_and_loaded text config read⟩

end ServiceLocation.Config
