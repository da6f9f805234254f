import ThreadHaul.Config.SetProcessRole

/-!
# What Giving a Process a Role Does

What `SetProcessRole` comes to for the configuration: the name is taken out of the
three lists, whatever its case, and added to one of them, and nothing else is
changed.

A list of the document and a list of the configuration belong together entry by
entry, `Lists`, and `Accepts` says so of the section `processes`. Each step of the
edit takes such a section to another one. No entry that is left is the same as the
name, so the name does not come into conflict with a name of another list, and
what was accepted before is accepted again.

That the library reads what it has written is an assumption, `RoundTrips`.

## Main definitions

* `moved`, `withRole`: The configuration with a name in one list.
* `IsEntry`, `Lists`, `Accepts`: A document and what is read from it.
* `RoundTrips`: What is written is read again.

## Theorems

* `parseProcesses_iff`: When a section is accepted.
* `accepts_dropped`, `accepts_giveRole`: The steps of the edit.
* `parseRoot_replace`: The other sections do not change.
* `setProcessRole_spec`: What `SetProcessRole` does.
-/

namespace ThreadHaul

namespace Config

open Actuator

/-- The names without the one that is wanted, which is added at the end if it
    belongs there. -/
def moved (host : Host) (names : List WString) (wanted : WString) (here : Bool) : List WString :=
  (names.filter fun n => !namesEqualIgnoreCase host n wanted) ++ if here then [wanted] else []

/-- The lists with a name in the list of its role. -/
def ProcessSettings.withRole (host : Host) (p : ProcessSettings) (wanted : WString) (role : Bytes) :
    ProcessSettings where
  criticalProcesses := moved host p.criticalProcesses wanted (role == ascii "critical")
  batchProcesses := moved host p.batchProcesses wanted (role == ascii "batch")
  protectedProcesses := moved host p.protectedProcesses wanted (role == ascii "protected")

/-- The lists without a name. -/
def ProcessSettings.without (host : Host) (p : ProcessSettings) (wanted : WString) :
    ProcessSettings where
  criticalProcesses := moved host p.criticalProcesses wanted false
  batchProcesses := moved host p.batchProcesses wanted false
  protectedProcesses := moved host p.protectedProcesses wanted false

/-- The configuration with a process in another role. -/
def DaemonConfig.withRole (host : Host) (cfg : DaemonConfig) (wanted : WString) (role : Bytes) :
    DaemonConfig :=
  { cfg with toProcessSettings := cfg.toProcessSettings.withRole host wanted role }

/-- The entry of a list that stands for a name. -/
def IsEntry (os : Platform) (v : Json) (name : WString) : Prop :=
  ∃ s, v = .string s ∧ IsExecutable s ∧ utf8ToWide os s = .ok name

/-- A list of the document, if it is there, and the names that are read from it. -/
def Lists (os : Platform) (v : Option Json) (names : List WString) : Prop :=
  match v with
  | none => names = []
  | some v => ∃ elements, v = .array elements ∧ List.Forall₂ (IsEntry os) elements names

/-- The section `processes` of a document, and what is read from it. -/
structure Accepts (os : Platform) (processes : List (Bytes × Json)) (p : ProcessSettings) :
    Prop where
  critical : (Json.find processes (ascii "critical")).isSome = true ∧
    Lists os (Json.find processes (ascii "critical")) p.criticalProcesses
  batch : (Json.find processes (ascii "batch")).isSome = true ∧
    Lists os (Json.find processes (ascii "batch")) p.batchProcesses
  others : Lists os (Json.find processes (ascii "protected")) p.protectedProcesses
  apart : ∀ c ∈ p.criticalProcesses, ∀ b ∈ p.batchProcesses,
    namesEqualIgnoreCase os.host c b = false

/-- The library reads the documents that it has written after an edit. -/
def Library.RoundTrips (lib : Library) (name : Bytes) : Prop :=
  ∀ text root role edited, lib.parse text = .ok root → role ∈ roles →
    reassign lib.platform root name role = .ok edited → edited.AllText →
      lib.parse (lib.write edited ++ [10]) = .ok edited

section Moved

variable {host : Host}

theorem namesEqual_self (name : WString) : namesEqualIgnoreCase host name name = true :=
  beq_self_eq_true _

theorem namesEqual_symm (a b : WString) :
    namesEqualIgnoreCase host a b = namesEqualIgnoreCase host b a := Bool.beq_comm

/-- Of two moves the second one counts. -/
theorem moved_moved (names : List WString) (wanted : WString) (here here' : Bool) :
    moved host (moved host names wanted here) wanted here' = moved host names wanted here' := by
  have hlast : (if here then [wanted] else []).filter
      (fun n => !namesEqualIgnoreCase host n wanted) = [] := by
    cases here <;> simp [namesEqual_self]
  simp only [moved, List.filter_append, hlast, List.append_nil, List.filter_filter, Bool.and_self]

theorem withRole_withRole (cfg : DaemonConfig) (wanted : WString) (first role : Bytes) :
    (cfg.withRole host wanted first).withRole host wanted role = cfg.withRole host wanted role := by
  simp only [DaemonConfig.withRole, ProcessSettings.withRole, moved_moved]

/-- What is moved is not the same as any other name. -/
theorem mem_moved (names : List WString) (wanted n : WString) (here : Bool)
    (h : n ∈ moved host names wanted here) :
    (n ∈ names ∧ namesEqualIgnoreCase host n wanted = false) ∨ (n = wanted ∧ here = true) := by
  rcases List.mem_append.mp h with h | h
  · rw [List.mem_filter, Bool.not_eq_true'] at h
    exact Or.inl h
  · cases here with
    | true => exact Or.inr ⟨List.mem_singleton.mp h, rfl⟩
    | false => exact absurd h List.not_mem_nil

/-- Names that are apart stay apart if one of them is moved to at most one list. -/
theorem apart_moved (critical batch : List WString) (wanted : WString) (here there : Bool)
    (hone : ¬ (here = true ∧ there = true))
    (h : ∀ c ∈ critical, ∀ b ∈ batch, namesEqualIgnoreCase host c b = false) :
    ∀ c ∈ moved host critical wanted here, ∀ b ∈ moved host batch wanted there,
      namesEqualIgnoreCase host c b = false := by
  intro c hc b hb
  -- A name is in a list because it was there or because it was moved there.
  rcases mem_moved critical wanted c here hc with ⟨hc, hcw⟩ | ⟨rfl, hhere⟩
  · rcases mem_moved batch wanted b there hb with ⟨hb, _⟩ | ⟨rfl, _⟩
    · exact h c hc b hb
    · exact hcw
  · rcases mem_moved batch c b there hb with ⟨_, hbw⟩ | ⟨_, hthere⟩
    · rw [namesEqual_symm]
      exact hbw
    · exact absurd ⟨hhere, hthere⟩ hone

end Moved

section Reading

variable {os : Platform}

theorem nameOf_eq_ok_iff (item : Bytes) (v : Json) (name : WString) :
    nameOf os item v = .ok name ↔ IsEntry os v name := by
  unfold IsEntry IsExecutable
  cases v with
  | string s =>
      simp only [nameOf]
      -- An empty name and a path are refused before the text is converted.
      split_ifs with hempty hslash
      · refine iff_of_false (by simp) ?_
        rintro ⟨t, ht, hexecutable, _⟩
        cases ht
        exact hexecutable.1 hempty
      · refine iff_of_false (by simp) ?_
        rintro ⟨t, ht, hexecutable, _⟩
        cases ht
        exact absurd hslash (Bool.eq_false_iff.mp hexecutable.2)
      · constructor
        · exact fun h => ⟨s, rfl, ⟨hempty, Bool.eq_false_iff.mpr hslash⟩, h⟩
        · rintro ⟨t, ht, _, h⟩
          cases ht
          exact h
  | discarded => simp [nameOf]
  | null => simp [nameOf]
  | boolean b => simp [nameOf]
  | integer n => simp [nameOf]
  | float x => simp [nameOf]
  | array elements => simp [nameOf]
  | object members => simp [nameOf]

theorem namesFrom_eq_ok_iff (path : Bytes) (elements : List Json) (i : Nat)
    (names : List WString) :
    namesFrom os path elements i = .ok names ↔ List.Forall₂ (IsEntry os) elements names := by
  -- The index is only for the message of an error, so it is generalised.
  induction elements generalizing i names with
  | nil =>
      simp only [namesFrom, Except.ok.injEq, List.forall₂_nil_left_iff]
      exact eq_comm
  | cons v rest ih =>
      simp only [namesFrom, bind_eq_ok_iff, nameOf_eq_ok_iff, ih, List.forall₂_cons_left_iff]
      constructor
      · rintro ⟨name, hname, names', hnames', h⟩
        cases h
        exact ⟨name, names', hname, hnames', rfl⟩
      · rintro ⟨name, names', hname, hnames', rfl⟩
        exact ⟨name, hname, names', hnames', rfl⟩

theorem nameList_eq_ok_iff (v : Json) (path : Bytes) (names : List WString) :
    nameList os v path = .ok names ↔ Lists os (some v) names := by
  unfold Lists
  cases v with
  | array elements => simp [nameList, namesFrom_eq_ok_iff]
  | discarded => simp [nameList]
  | null => simp [nameList]
  | boolean b => simp [nameList]
  | integer n => simp [nameList]
  | float x => simp [nameList]
  | string s => simp [nameList]
  | object members => simp [nameList]

theorem isEntry_sorted (v : Json) (name : WString) :
    IsEntry os v.sorted name ↔ IsEntry os v name := by
  unfold IsEntry
  cases v <;> simp [Json.sorted]

/-- The order of the keys does not matter for a list. -/
theorem lists_sorted (v : Option Json) (names : List WString) :
    Lists os (v.map Json.sorted) names ↔ Lists os v names := by
  unfold Lists
  rcases v with _ | v
  · exact Iff.rfl
  · cases v with
    -- Sorting goes into the members of an object and leaves the order of an array alone.
    | array elements =>
        simp only [Option.map_some, Json.sorted, Json.array.injEq, exists_eq_left',
          Json.sortedElements_eq, List.forall₂_map_left_iff, isEntry_sorted]
    | discarded => simp [Json.sorted]
    | null => simp [Json.sorted]
    | boolean b => simp [Json.sorted]
    | integer n => simp [Json.sorted]
    | float x => simp [Json.sorted]
    | string s => simp [Json.sorted]
    | object members => simp [Json.sorted]

theorem parseProtected_eq_ok_iff (processes : Json) (names : List WString) :
    parseProtected os processes = .ok names ↔
      Lists os (member processes (ascii "protected")) names := by
  unfold parseProtected
  cases member processes (ascii "protected") with
  | none =>
      simp only [Lists, Except.ok.injEq]
      exact eq_comm
  | some v => exact nameList_eq_ok_iff v _ names

/-- A section is accepted exactly if its lists are and no name is both critical
    and batch. -/
theorem parseProcesses_iff (root : Json) (p : ProcessSettings) :
    parseProcesses os root = .ok p ↔
      ∃ processes, member root (ascii "processes") = some (.object processes) ∧
        Accepts os processes p := by
  simp only [parseProcesses, bind_eq_ok_iff, object_eq_ok_iff, field_eq_ok_iff, nameList_eq_ok_iff,
    parseProtected_eq_ok_iff]
  constructor
  · rintro ⟨v, ⟨hv, hobject⟩, criticalList, hcritical, criticalNames, hcriticalNames, batchList,
      hbatch, batchNames, hbatchNames, protectedNames, hprotected, h⟩
    split at h
    · cases h
    · next hnone =>
      cases h
      obtain ⟨processes, rfl⟩ := (Json.isObject_iff v).mp hobject
      refine ⟨processes, hv, ⟨?_, ?_⟩, ⟨?_, ?_⟩, hprotected, fun c hc b hb => ?_⟩
      · exact Option.isSome_iff_exists.mpr ⟨criticalList, hcritical⟩
      · exact (hcritical ▸ hcriticalNames :)
      · exact Option.isSome_iff_exists.mpr ⟨batchList, hbatch⟩
      · exact (hbatch ▸ hbatchNames :)
      · -- The search for a name in both lists found none.
        have hno := List.find?_eq_none.mp hnone c hc
        rw [Bool.not_eq_true, List.any_eq_false] at hno
        exact Bool.eq_false_iff.mpr (hno b hb)
  · rintro ⟨processes, hmember, haccepts⟩
    -- Conversely every check of the section passes, the search for a common name included.
    obtain ⟨criticalList, hcritical⟩ := Option.isSome_iff_exists.mp haccepts.critical.1
    obtain ⟨batchList, hbatch⟩ := Option.isSome_iff_exists.mp haccepts.batch.1
    refine ⟨.object processes, ⟨hmember, rfl⟩, criticalList, hcritical, p.criticalProcesses,
      hcritical ▸ haccepts.critical.2, batchList, hbatch, p.batchProcesses,
      hbatch ▸ haccepts.batch.2, p.protectedProcesses, haccepts.others, ?_⟩
    have hnone : (p.criticalProcesses.find? fun c => p.batchProcesses.any fun b =>
        namesEqualIgnoreCase os.host c b) = none := by
      rw [List.find?_eq_none]
      intro c hc hany
      obtain ⟨b, hb, hsame⟩ := List.any_eq_true.mp hany
      rw [haccepts.apart c hc b hb] at hsame
      cases hsame
    rw [hnone]
    rfl

theorem accepts_sorted (processes : List (Bytes × Json)) (p : ProcessSettings) :
    Accepts os (Json.sortedMembers processes) p ↔ Accepts os processes p := by
  constructor
  · rintro ⟨hcritical, hbatch, hothers, hapart⟩
    simp only [Json.find_sortedMembers, Option.isSome_map, lists_sorted] at hcritical hbatch hothers
    exact ⟨hcritical, hbatch, hothers, hapart⟩
  · rintro ⟨hcritical, hbatch, hothers, hapart⟩
    refine ⟨?_, ?_, ?_, hapart⟩
    · simpa only [Json.find_sortedMembers, Option.isSome_map, lists_sorted] using hcritical
    · simpa only [Json.find_sortedMembers, Option.isSome_map, lists_sorted] using hbatch
    · simpa only [Json.find_sortedMembers, lists_sorted] using hothers

/-- The same in the order in which the document is edited. -/
theorem parseProcesses_sorted_iff (members : List (Bytes × Json)) (p : ProcessSettings) :
    parseProcesses os (Json.object members).sorted = .ok p ↔
      ∃ processes, Json.find members (ascii "processes") = some (.object processes) ∧
        Accepts os processes p := by
  have hmember : member (Json.object members).sorted (ascii "processes")
      = (Json.find members (ascii "processes")).map Json.sorted := member_sorted _ _
  rw [parseProcesses_iff, hmember]
  -- The section is found in the sorted document just when it is in the written one.
  constructor
  · rintro ⟨ordered, hordered, haccepts⟩
    rw [Option.map_eq_some_iff] at hordered
    obtain ⟨v, hv, hsorted⟩ := hordered
    obtain ⟨processes, rfl, rfl⟩ := (Json.sorted_eq_object_iff v ordered).mp hsorted
    exact ⟨processes, hv, (accepts_sorted processes p).mp haccepts⟩
  · rintro ⟨processes, hfind, haccepts⟩
    refine ⟨Json.sortedMembers processes, ?_, (accepts_sorted processes p).mpr haccepts⟩
    rw [hfind]
    rfl

/-- The other sections are read from the other members. -/
theorem parseRoot_replace (root root' : Json) (cfg : DaemonConfig) (p : ProcessSettings)
    (h : parseRoot os root = .ok cfg)
    (hsame : ∀ key, key ≠ ascii "processes" → member root' key = member root key)
    (hprocesses : parseProcesses os root' = .ok p) :
    parseRoot os root' = .ok { cfg with toProcessSettings := p } := by
  have hobject : ∀ key path, key ≠ ascii "processes" →
      object root' key path = object root key path := by
    intro key path hkey
    rw [object, object, field, field, hsame key hkey]
  -- A section is found by its key, and no other key is changed.
  have hsection : ∀ {σ : Type} (key path : Bytes) (default : σ)
      (read : Json → Except ConfigError σ), key ≠ ascii "processes" →
        optSection root' key path default read = optSection root key path default read := by
    intro σ key path default read hkey
    rw [optSection, optSection, optObject, optObject, hsame key hkey]
  have hpolling : parsePolling root' = parsePolling root := by
    rw [parsePolling, parsePolling, hobject _ _ (by decide)]
  have hthresholds : parseThresholds root' = parseThresholds root := by
    rw [parseThresholds, parseThresholds, hobject _ _ (by decide)]
  have hlogging : parseLogging os root' = parseLogging os root := by
    rw [parseLogging, parseLogging, hobject _ _ (by decide)]
  simp only [parseRoot, bind_eq_ok_iff] at h
  rcases h with ⟨polling, h1, thresholds, h2, processes, _, logging, h4, telemetry, h5, triggers,
    h6, adaptive, h7, alerts, h8, pins, h9, coordination, h10, security, h11, auto, h12, dashboard,
    h13, h⟩
  cases h
  rw [← hpolling] at h1
  rw [← hthresholds] at h2
  rw [← hlogging] at h4
  rw [← hsection _ _ _ _ (by decide)] at h5 h6 h7 h8 h9 h10 h11 h12 h13
  simp only [parseRoot, h1, h2, hprocesses, h4, h5, h6, h7, h8, h9, h10, h11, h12, h13]
  rfl

end Reading

section Edit

variable {os : Platform}

/-- The entries that are kept stand for the names that are kept. -/
theorem keepOthers_entries (wanted : WString) (elements : List Json) (names : List WString)
    (h : List.Forall₂ (IsEntry os) elements names) :
    ∃ kept, keepOthers os wanted elements = .ok kept ∧
      List.Forall₂ (IsEntry os) kept (moved os.host names wanted false) := by
  induction h with
  | nil => exact ⟨[], rfl, List.Forall₂.nil⟩
  | @cons v name elements names hentry _ ih =>
      obtain ⟨kept, hkept, hrest⟩ := ih
      obtain ⟨s, rfl, _, hwide⟩ := hentry
      -- The entry is converted as the name was, so it is compared with the same name.
      have hsame : isWanted os wanted (.string s)
          = .ok (namesEqualIgnoreCase os.host name wanted) := by
        change (Throwing.lift (utf8ToWide os s) >>= fun w =>
          pure (namesEqualIgnoreCase os.host w wanted)) = _
        rw [hwide]
        rfl
      have hkeep : keepOthers os wanted (.string s :: elements)
          = .ok (if namesEqualIgnoreCase os.host name wanted then kept else .string s :: kept) := by
        rw [keepOthers, hsame, hkept]
        rfl
      refine ⟨_, hkeep, ?_⟩
      simp only [moved, Bool.false_eq_true, if_false, List.append_nil, List.filter_cons,
        Bool.not_eq_true'] at hrest ⊢
      cases hcase : namesEqualIgnoreCase os.host name wanted with
      | true => simpa using hrest
      | false => simpa using List.Forall₂.cons ⟨s, rfl, ‹_›, hwide⟩ hrest

/-- One turn of the loop over the lists, for a list that was read. -/
theorem dropName_lists (wanted : WString) (processes : List (Bytes × Json)) (list : Bytes)
    (names : List WString)
    (h : Lists os (Json.find processes list) names) :
    ∃ processes', dropName os wanted processes list = .ok processes' ∧
      Lists os (Json.find processes' list) (moved os.host names wanted false) ∧
      (Json.find processes' list).isSome = (Json.find processes list).isSome := by
  unfold Lists at h
  -- The list may be missing, an array, or something else.
  rcases dropName_cases os wanted processes list with ⟨hnone, heq⟩ | ⟨elements, hfind, heq⟩ |
    ⟨v, message, hfind, hnot, heq⟩
  · rw [hnone] at h
    refine ⟨processes, heq, ?_, rfl⟩
    rw [hnone, h]
    rfl
  · rw [hfind] at h
    obtain ⟨elements', helements, hnames⟩ := h
    cases helements
    obtain ⟨kept, hkept, hentries⟩ := keepOthers_entries wanted elements names hnames
    rw [hkept] at heq
    refine ⟨_, heq, ?_, ?_⟩
    · rw [Json.find_setMember, if_pos rfl]
      exact ⟨kept, rfl, hentries⟩
    · rw [Json.find_setMember, if_pos rfl, hfind]
      rfl
  · -- A list that was read is an array.
    rw [hfind] at h
    obtain ⟨elements, rfl, _⟩ := h
    cases hnot

/-- The loop over the lists takes the name out of all of them. -/
theorem accepts_dropped (wanted : WString) (processes : List (Bytes × Json))
    (p : ProcessSettings) (h : Accepts os processes p) :
    ∃ dropped, roleLists.foldlM (dropName os wanted) processes = .ok dropped ∧
      Accepts os dropped (p.without os.host wanted) := by
  obtain ⟨ps1, hone, hlists1, hsome1⟩ :=
    dropName_lists wanted processes (ascii "critical") _ h.critical.2
  -- A turn changes its own list, so the lists of the other turns stay.
  have hsame1 := (dropName_eq_ok wanted processes ps1 _ hone).1
  obtain ⟨ps2, htwo, hlists2, hsome2⟩ := dropName_lists wanted ps1 (ascii "batch")
    p.batchProcesses (by
      rw [hsame1 _ (by decide)]
      exact h.batch.2)
  have hsame2 := (dropName_eq_ok wanted ps1 ps2 _ htwo).1
  obtain ⟨ps3, hthree, hlists3, _⟩ := dropName_lists wanted ps2 (ascii "protected")
    p.protectedProcesses (by
      rw [hsame2 _ (by decide), hsame1 _ (by decide)]
      exact h.others)
  have hsame3 := (dropName_eq_ok wanted ps2 ps3 _ hthree).1
  refine ⟨ps3, ?_, ⟨?_, ?_⟩, ⟨?_, ?_⟩, hlists3, ?_⟩
  · simp only [roleLists, List.foldlM_cons, List.foldlM_nil, hone]
    change (dropName os wanted ps1 (ascii "batch") >>= fun s => dropName os wanted s _ >>= pure) = _
    rw [htwo]
    change (dropName os wanted ps2 (ascii "protected") >>= pure) = _
    rw [hthree]
    rfl
  · rw [hsame3 _ (by decide), hsame2 _ (by decide), hsome1]
    exact h.critical.1
  · rw [hsame3 _ (by decide), hsame2 _ (by decide)]
    exact hlists1
  · rw [hsame3 _ (by decide), hsome2, hsame1 _ (by decide)]
    exact h.batch.1
  · rw [hsame3 _ (by decide)]
    exact hlists2
  · exact apart_moved p.criticalProcesses p.batchProcesses wanted false false (by simp) h.apart

/-- A name is added at the end of its list. -/
theorem addName_lists (list name : Bytes) (names : List WString)
    (hentry : IsEntry os (.string name) wanted) (h : Lists os (Json.find processes list) names) :
    ∃ named, addName processes list name = .ok named ∧
      (Json.find named list).isSome = true ∧
      Lists os (Json.find named list) (names ++ [wanted]) ∧
      ∀ key, key ≠ list → Json.find named key = Json.find processes key := by
  -- A list that is there is an array, so the name can be put at its end.
  have harray : ∀ v, Json.find processes list = some v → v.isArray = true := by
    intro v hv
    rw [hv] at h
    obtain ⟨elements, rfl, _⟩ := h
    rfl
  obtain ⟨elements, helements, hadd⟩ := addName_of_isArray processes list name harray
  refine ⟨_, hadd, ?_, ?_, fun key hkey => by rw [Json.find_setMember, if_neg hkey]⟩
  · rw [Json.find_setMember, if_pos rfl]
    rfl
  · rw [Json.find_setMember, if_pos rfl]
    refine ⟨_, rfl, List.rel_append ?_ (List.Forall₂.cons hentry List.Forall₂.nil)⟩
    unfold Lists at h
    rcases hfind : Json.find processes list with _ | v
    · rw [hfind] at h helements
      cases helements
      rw [h]
      exact List.Forall₂.nil
    · rw [hfind] at h helements
      obtain ⟨elements', rfl, hentries⟩ := h
      cases helements
      exact hentries

/-- The name is added to the list of its role, and that puts it into no conflict. -/
theorem accepts_giveRole (p : ProcessSettings) (dropped : List (Bytes × Json)) (role name : Bytes)
    (hrole : role ∈ roles) (hentry : IsEntry os (.string name) wanted)
    (hapart : ∀ c ∈ p.criticalProcesses, ∀ b ∈ p.batchProcesses,
      namesEqualIgnoreCase os.host c b = false)
    (h : Accepts os dropped (p.without os.host wanted)) :
    ∃ named, giveRole dropped role name = .ok named ∧
      Accepts os named (p.withRole os.host wanted role) := by
  have hmoved : ∀ names, moved os.host names wanted true
      = moved os.host names wanted false ++ [wanted] := by
    intro names
    simp [moved]
  simp only [roles, List.mem_cons, List.not_mem_nil, or_false] at hrole
  -- Critical, batch, protected, and no role. One list gets the name, the other two stay.
  rcases hrole with rfl | rfl | rfl | rfl
  · obtain ⟨named, hadd, hsome, hlists, hsame⟩ := addName_lists _ name _ hentry h.critical.2
    refine ⟨named, hadd, ⟨hsome, ?_⟩, ?_, ?_, ?_⟩
    · exact (hmoved p.criticalProcesses ▸ hlists :)
    · rw [hsame _ (by decide)]
      exact h.batch
    · rw [hsame _ (by decide)]
      exact h.others
    · exact apart_moved _ _ wanted true false (by simp) hapart
  · obtain ⟨named, hadd, hsome, hlists, hsame⟩ := addName_lists _ name _ hentry h.batch.2
    refine ⟨named, hadd, ?_, ⟨hsome, ?_⟩, ?_, ?_⟩
    · rw [hsame _ (by decide)]
      exact h.critical
    · exact (hmoved p.batchProcesses ▸ hlists :)
    · rw [hsame _ (by decide)]
      exact h.others
    · exact apart_moved _ _ wanted false true (by simp) hapart
  · obtain ⟨named, hadd, _, hlists, hsame⟩ := addName_lists _ name _ hentry h.others
    refine ⟨named, hadd, ?_, ?_, ?_, ?_⟩
    · rw [hsame _ (by decide)]
      exact h.critical
    · rw [hsame _ (by decide)]
      exact h.batch
    · exact (hmoved p.protectedProcesses ▸ hlists :)
    · exact apart_moved _ _ wanted false false (by simp) hapart
  · exact ⟨dropped, rfl, h⟩

end Edit

section Spec

variable {lib : Library}

theorem platform_parse (text : Bytes) (root : Json) (h : lib.parse text = .ok root) :
    lib.platform.parse text = .ok root.sorted := by
  simp only [Library.platform, h]

theorem parseConfig_of_parse (text : Bytes) (root : Json) (h : lib.parse text = .ok root)
    (hobject : root.isObject = true) :
    parseConfig lib.platform text = parseRoot lib.platform root.sorted := by
  unfold parseConfig
  rw [platform_parse text root h]
  exact if_pos ((Json.isObject_sorted root).trans hobject)

/-- The document that is accepted has the section that is edited. -/
theorem document_of_accepted (jsonText : Bytes) (cfg : DaemonConfig)
    (h : parseConfig lib.platform jsonText = .ok cfg) :
    ∃ members processes, lib.parse jsonText = .ok (.object members) ∧
      parseRoot lib.platform (Json.object members).sorted = .ok cfg ∧
      Json.find members (ascii "processes") = some (.object processes) ∧
      Accepts lib.platform processes cfg.toProcessSettings := by
  unfold parseConfig at h
  -- A document that does not parse is no configuration.
  rcases hroot : lib.parse jsonText with e | root
  · have herror : lib.platform.parse jsonText = .error e.what := by
      simp only [Library.platform, hroot]
    rw [herror] at h
    cases h
  · rw [platform_parse _ _ hroot] at h
    dsimp only at h
    split_ifs at h with hobject
    rw [Json.isObject_sorted] at hobject
    obtain ⟨members, rfl⟩ := (Json.isObject_iff root).mp hobject
    obtain ⟨processes, hfind, haccepts⟩ :=
      (parseProcesses_sorted_iff members _).mp (parseRoot_eq_ok _ cfg h).2.1
    exact ⟨members, processes, rfl, h, hfind, haccepts⟩

/-- An edit of an accepted document gives an accepted document. -/
theorem reassign_accepted (members processes : List (Bytes × Json)) (cfg : DaemonConfig)
    (name role : Bytes) (wanted : WString) (hrole : role ∈ roles) (hname : IsExecutable name)
    (hwide : utf8ToWide lib.platform name = .ok wanted)
    (hroot : parseRoot lib.platform (Json.object members).sorted = .ok cfg)
    (hfind : Json.find members (ascii "processes") = some (.object processes))
    (haccepts : Accepts lib.platform processes cfg.toProcessSettings) :
    ∃ members', reassign lib.platform (.object members) name role = .ok (.object members') ∧
      parseRoot lib.platform (Json.object members').sorted
        = .ok (cfg.withRole lib.host wanted role) := by
  have hentry : IsEntry lib.platform (.string name) wanted := ⟨name, rfl, hname, hwide⟩
  -- The name is dropped from all lists, and given its role.
  obtain ⟨dropped, hdropped, hwithout⟩ := accepts_dropped wanted processes _ haccepts
  obtain ⟨named, hnamed, hwith⟩ :=
    accepts_giveRole _ dropped role name hrole hentry haccepts.apart hwithout
  refine ⟨Json.setMember members (ascii "processes") (.object named), ?_, ?_⟩
  · rw [reassign_eq members processes name role hfind, hwide]
    change (roleLists.foldlM (dropName lib.platform wanted) processes >>= _) = _
    rw [hdropped]
    change (giveRole dropped role name >>= _) = _
    rw [hnamed]
    rfl
  · refine parseRoot_replace _ _ cfg _ hroot (fun key hkey => ?_) ?_
    · rw [member_sorted, member_sorted]
      simp only [member, Json.find_setMember, if_neg hkey]
    · rw [parseProcesses_sorted_iff]
      exact ⟨named, by rw [Json.find_setMember, if_pos rfl], hwith⟩

/-- `SetProcessRole` on a text that is accepted. -/
theorem setProcessRole_accepted (hlib : lib.TextOnly) (jsonText name role : Bytes)
    (wanted : WString) (hround : lib.RoundTrips name) (hrole : role ∈ roles)
    (hname : IsExecutable name) (hvalid : Utf8.Valid name)
    (hwide : utf8ToWide lib.platform name = .ok wanted) (cfg : DaemonConfig)
    (h : parseConfig lib.platform jsonText = .ok cfg) :
    ∃ out, setProcessRole lib jsonText name role = .ok out ∧
      parseConfig lib.platform out = .ok (cfg.withRole lib.host wanted role) := by
  obtain ⟨members, processes, hparse, hroot, hfind, haccepts⟩ := document_of_accepted jsonText cfg h
  obtain ⟨members', hreassign, hroot'⟩ := reassign_accepted members processes cfg name role wanted
    hrole hname hwide hroot hfind haccepts
  have htext := (reassign_eq_ok _ _ name role hrole hreassign).2 (hlib.parsed jsonText _ hparse)
    hvalid
  have hread := hround jsonText _ role _ hparse hrole hreassign htext
  -- What is written is read again, and accepted.
  have hresult : parseConfig lib.platform (lib.write (.object members') ++ [10])
      = .ok (cfg.withRole lib.host wanted role) := by
    rw [parseConfig_of_parse _ _ hread rfl]
    exact hroot'
  refine ⟨lib.write (.object members') ++ [10], ?_, hresult⟩
  have hrefused : ¬ (name = [] ∨ (name.any fun c => c == 92 || c == 47) = true) := by
    rw [not_or, Bool.not_eq_true]
    exact hname
  unfold setProcessRole parseToEdit
  rw [if_neg (not_not.mpr hrole), if_neg hrefused, hparse]
  change (reassign lib.platform (.object members) name role >>= _) = _
  rw [hreassign]
  change (Throwing.access (Json.object members').dump >>= _) = _
  rw [Json.dump_of_allText _ htext]
  change (Throwing.parseConfig lib (lib.write (.object members') ++ [10]) >>= _) = _
  rw [Throwing.parseConfig_eq, hresult]
  rfl

/-- `SetProcessRole` moves the name to the list of its role and changes nothing
    else, and of two roles that are given the second one counts. -/
theorem setProcessRole_spec (lib : Library) (hlib : lib.TextOnly)
    (hwidens : ∀ s, Utf8.Valid s → (lib.toWide s).isSome = true) (jsonText name : Bytes)
    (hround : lib.RoundTrips name) (hname : IsExecutable name) (hvalid : Utf8.Valid name)
    (cfg : DaemonConfig) (h : parseConfig lib.platform jsonText = .ok cfg) :
    ∃ wanted, lib.toWide name = some wanted ∧
      (∀ role ∈ roles, ∃ out, setProcessRole lib jsonText name role = .ok out ∧
        parseConfig lib.platform out = .ok (cfg.withRole lib.host wanted role)) ∧
      ∀ first ∈ roles, ∀ role ∈ roles, ∃ out twice once,
        setProcessRole lib jsonText name first = .ok out ∧
          setProcessRole lib out name role = .ok twice ∧
          setProcessRole lib jsonText name role = .ok once ∧
          parseConfig lib.platform twice = parseConfig lib.platform once := by
  obtain ⟨wanted, hwide⟩ := Option.isSome_iff_exists.mp (hwidens name hvalid)
  have hconverted : utf8ToWide lib.platform name = .ok wanted := by
    have hplatform : lib.platform.toWide name = some wanted := hwide
    unfold utf8ToWide
    rw [if_neg hname.1, hplatform]
  refine ⟨wanted, hwide, fun role hrole => ?_, fun first hfirst role hrole => ?_⟩
  · exact setProcessRole_accepted hlib jsonText name role wanted hround hrole hname hvalid
      hconverted cfg h
  · obtain ⟨out, hout, hcfg⟩ := setProcessRole_accepted hlib jsonText name first wanted hround
      hfirst hname hvalid hconverted cfg h
    -- The second call starts from what the first one wrote.
    obtain ⟨twice, htwice, hcfg'⟩ := setProcessRole_accepted hlib out name role wanted hround
      hrole hname hvalid hconverted _ hcfg
    obtain ⟨once, honce, hcfg''⟩ := setProcessRole_accepted hlib jsonText name role wanted hround
      hrole hname hvalid hconverted cfg h
    refine ⟨out, twice, once, hout, htwice, honce, ?_⟩
    rw [hcfg', hcfg'', withRole_withRole]

end Spec

section Samples

theorem reassign_sampleRoot (first role : Bytes) (hfirst : first ∈ roles) (hrole : role ∈ roles) :
    reassign sampleLibrary.platform (sampleRoot first) (ascii "c.exe") role
      = .ok (sampleRoot role) := by
  simp only [roles, List.mem_cons, List.not_mem_nil, or_false] at hfirst hrole
  rcases hfirst with rfl | rfl | rfl | rfl <;> rcases hrole with rfl | rfl | rfl | rfl <;> rfl

/-- The library reads what it writes of the documents. -/
theorem sampleLibrary_roundTrips : sampleLibrary.RoundTrips (ascii "c.exe") := by
  intro text root role edited hparse hrole hedited _
  obtain ⟨first, hfirst, rfl⟩ := parse_sampleLibrary text root hparse
  rw [reassign_sampleRoot first role hfirst hrole] at hedited
  cases hedited
  rw [write_sampleRoot role hrole, parse_sampleText role hrole]

theorem sampleText_accepted :
    ∃ cfg, parseConfig sampleLibrary.platform (sampleText (ascii "none") ++ [10]) = .ok cfg := by
  have hok : (parseRoot sampleLibrary.platform (sampleRoot (ascii "none")).sorted).isOk = true := by
    decide +kernel
  rw [parseConfig_of_parse _ _ (parse_sampleText (ascii "none") (by decide)) rfl]
  cases hroot : parseRoot sampleLibrary.platform (sampleRoot (ascii "none")).sorted with
  | ok cfg => exact ⟨cfg, rfl⟩
  | error e =>
      rw [hroot] at hok
      cases hok

theorem setProcessRole_sample :
    ∃ cfg wanted,
      parseConfig sampleLibrary.platform (sampleText (ascii "none") ++ [10]) = .ok cfg ∧
      sampleLibrary.toWide (ascii "c.exe") = some wanted ∧
      (∀ role ∈ roles, ∃ out,
        setProcessRole sampleLibrary (sampleText (ascii "none") ++ [10]) (ascii "c.exe") role
            = .ok out ∧
          parseConfig sampleLibrary.platform out
            = .ok (cfg.withRole sampleLibrary.host wanted role)) ∧
      ∀ first ∈ roles, ∀ role ∈ roles, ∃ out twice once,
        setProcessRole sampleLibrary (sampleText (ascii "none") ++ [10]) (ascii "c.exe") first
            = .ok out ∧
          setProcessRole sampleLibrary out (ascii "c.exe") role = .ok twice ∧
          setProcessRole sampleLibrary (sampleText (ascii "none") ++ [10]) (ascii "c.exe") role
            = .ok once ∧
          parseConfig sampleLibrary.platform twice = parseConfig sampleLibrary.platform once := by
  obtain ⟨cfg, hcfg⟩ := sampleText_accepted
  -- The hypotheses on the libraries hold of the sample.
  have hwidens : ∀ s, Utf8.Valid s → (sampleLibrary.toWide s).isSome = true := by
    intro s hs
    simp only [sampleLibrary, if_pos hs, Option.isSome_some]
  obtain ⟨wanted, hspec⟩ := setProcessRole_spec sampleLibrary sampleLibrary_textOnly hwidens _
    (ascii "c.exe") sampleLibrary_roundTrips ⟨by decide, by decide⟩
    (Json.valid_ascii _ (by decide)) cfg hcfg
  exact ⟨cfg, wanted, hcfg, hspec⟩

end Samples

end Config

end ThreadHaul
