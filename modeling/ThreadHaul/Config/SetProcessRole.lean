import ThreadHaul.Config.Throwing

/-!
# Giving a Process a Role

`SetProcessRole`: a configuration file with a process moved to another role.

The document is edited in the order of its text, written out, and read again by
`ParseConfig`. The parser has two ways of failing, and only one of them is caught
here: a number that no `double` holds is not reported as a `ConfigError`, although
`ParseConfig` does so with the same text.

Everything else that the library could throw does not happen. The types are looked
at, and a document that was parsed is text, so it can be written if the name is,
too: `onlyConfigErrors_iff`.

## Main definitions

* `setMember`, `pushBack`: Edits of a document.
* `reassign`: What is done to the document.
* `setProcessRole`: `SetProcessRole`.
* `OnlyConfigErrors`: Nothing but `ConfigError` is thrown.

## Theorems

* `find_setMember`: A member after an edit.
* `dropName_eq_ok`: One turn of the loop over the lists.
* `onlyConfigErrors_reassign`: The edit only throws `ConfigError`.
* `onlyConfigErrors_iff`: When another exception is thrown.
-/

namespace ThreadHaul

namespace Json

/-- `object[key] = value`: in place, or at the end. -/
def setMember : List (Bytes × Json) → Bytes → Json → List (Bytes × Json)
  | [], key, value => [(key, value)]
  | m :: members, key, value =>
      if m.1 = key then (key, value) :: members else m :: setMember members key value

/-- `push_back`. -/
def pushBack : Json → Json → Except JsonError Json
  | array elements, j => .ok (array (elements ++ [j]))
  | null, j => .ok (array [j])
  | _, _ => .error .wrongType

@[simp] theorem find_setMember (members : List (Bytes × Json)) (key key' : Bytes) (value : Json) :
    find (setMember members key value) key' =
      if key' = key then some value else find members key' := by
  unfold find
  induction members with
  | nil =>
      by_cases hkey : key' = key <;> simp [setMember, hkey]
  | cons m members ih =>
      unfold setMember
      -- The key is replaced where it is, or looked for further on.
      by_cases hm : m.1 = key
      · rw [if_pos hm, List.lookup_cons, List.lookup_cons, hm]
        by_cases hkey : key' = key
        · simp [hkey]
        · simp [hkey, beq_eq_false_iff_ne.mpr hkey]
      · rw [if_neg hm, List.lookup_cons, List.lookup_cons, ih]
        by_cases hkey : key' = m.1
        · have hne : key' ≠ key := fun h => hm (hkey.symm.trans h)
          simp [hkey, hm]
        · simp [beq_eq_false_iff_ne.mpr hkey]

theorem mem_setMember (members : List (Bytes × Json)) (key : Bytes) (value : Json)
    (m : Bytes × Json) (h : m ∈ setMember members key value) :
    m = (key, value) ∨ m ∈ members := by
  induction members with
  | nil => exact Or.inl (List.mem_singleton.mp h)
  | cons m' members ih =>
      unfold setMember at h
      -- The member that is replaced is dropped, and the others stay.
      split_ifs at h with hkey
      · rcases List.mem_cons.mp h with h | h
        · exact Or.inl h
        · exact Or.inr (List.mem_cons_of_mem _ h)
      · rcases List.mem_cons.mp h with h | h
        · exact Or.inr (by rw [h]; exact List.mem_cons_self)
        · exact (ih h).imp_right (List.mem_cons_of_mem _)

/-- A document stays text if what is put into it is text. -/
theorem allText_setMember (members : List (Bytes × Json)) (key : Bytes) (value : Json)
    (h : AllText (object members)) (hkey : Utf8.Valid key) (hvalue : AllText value) :
    AllText (object (setMember members key value)) := by
  rw [allText_object] at h ⊢
  intro m hm
  rcases mem_setMember members key value m hm with rfl | hm
  · exact ⟨hkey, hvalue⟩
  · exact h m hm

theorem allText_find (members : List (Bytes × Json)) (key : Bytes) (value : Json)
    (h : AllText (object members)) (hfind : find members key = some value) : AllText value :=
  ((allText_object members).mp h (key, value) (OrderedMap.mem_of_lookup members key value hfind)).2

end Json

namespace Config

open Actuator Throwing

/-- The roles. -/
def roles : List Bytes := [ascii "critical", ascii "batch", ascii "protected", ascii "none"]

/-- The lists of the section `processes`. -/
def roleLists : List Bytes := [ascii "critical", ascii "batch", ascii "protected"]

/-- There is a name, and it is not a path. -/
def IsExecutable (name : Bytes) : Prop :=
  name ≠ [] ∧ (name.any fun c => c == 92 || c == 47) = false

section SetProcessRole

variable (os : Platform)

/-- The entry is a name that is the same as the one that is wanted. -/
def isWanted (wanted : WString) (n : Json) : Except Thrown Bool := do
  -- What is no string is kept for `ParseConfig` to refuse.
  if !n.isString then return false
  else do
    let s ← access n.getString
    let w ← lift (utf8ToWide os s)
    return namesEqualIgnoreCase os.host w wanted

/-- The entries that are kept. -/
def keepOthers (wanted : WString) : List Json → Except Thrown (List Json)
  | [] => return []
  | n :: names => do
      let same ← isWanted os wanted n
      let kept ← keepOthers wanted names
      return if same then kept else n :: kept

/-- One turn of the loop over the lists. -/
def dropName (wanted : WString) (processes : List (Bytes × Json)) (list : Bytes) :
    Except Thrown (List (Bytes × Json)) :=
  match Json.find processes list with
  -- `protected` may be missing.
  | none => return processes
  | some names => do
      if !names.isArray then fail (ascii "processes." ++ list ++ ascii " must be an array")
      else do
        let elements ← access names.getElements
        let kept ← keepOthers os wanted elements
        return Json.setMember processes list (.array kept)

/-- The name is added to the list of its role, which may be missing. -/
def addName (processes : List (Bytes × Json)) (role name : Bytes) :
    Except Thrown (List (Bytes × Json)) := do
  let names := (Json.find processes role).getD (.array [])
  let added ← access (names.pushBack (.string name))
  return Json.setMember processes role added

/-- The name is added unless the role is none. -/
def giveRole (processes : List (Bytes × Json)) (role name : Bytes) :
    Except Thrown (List (Bytes × Json)) :=
  if role ≠ ascii "none" then addName processes role name else return processes

/-- The members of the document, and those of its section `processes`. -/
def processesOf (root : Json) :
    Except Thrown (List (Bytes × Json) × List (Bytes × Json)) :=
  match root with
  | .object members =>
      match Json.find members (ascii "processes") with
      | some (.object processes) => return (members, processes)
      | _ => fail (ascii "config has no processes object")
  | _ => fail (ascii "config has no processes object")

/-- What is done to the document. -/
def reassign (root : Json) (processName role : Bytes) : Except Thrown Json := do
  let (members, processes) ← processesOf root
  let wanted ← lift (utf8ToWide os processName)
  let dropped ← roleLists.foldlM (dropName os wanted) processes
  let named ← giveRole dropped role processName
  return .object (Json.setMember members (ascii "processes") (.object named))

end SetProcessRole

/-- The document, for `SetProcessRole`: of the exceptions of the parser only
    `parse_error` is caught. -/
def parseToEdit (lib : Library) (jsonText : Bytes) : Except Thrown Json :=
  match lib.parse jsonText with
  | .ok j => .ok j
  | .error (.parseError what) => fail (ascii "config is not valid JSON: " ++ what)
  -- No handler is for this one.
  | .error (.outOfRange what) => .error (.parsing (.outOfRange what))

/-- `SetProcessRole`. -/
def setProcessRole (lib : Library) (jsonText processName role : Bytes) : Except Thrown Bytes := do
  if role ∉ roles then fail (ascii "role must be critical, batch, protected or none")
  else if processName = [] ∨ (processName.any fun c => c == 92 || c == 47) = true then
    fail (ascii "process name must be an executable name such as \"app.exe\"")
  else do
    let root ← parseToEdit lib jsonText
    let edited ← reassign lib.platform root processName role
    -- `dump` throws for a string that is not UTF-8.
    let document ← access edited.dump
    let out := lib.write document ++ [10]
    -- The result is looked at as any other configuration, and dropped.
    let _ ← Throwing.parseConfig lib out
    return out

/-- Nothing but `ConfigError` is thrown. -/
def OnlyConfigErrors {α : Type} (x : Except Thrown α) : Prop :=
  ∀ e, x = .error e → ∃ message, e = .config message

/-- What is known of the library about text that is not UTF-8: the parser refuses
    it, and so does the conversion. -/
structure Library.TextOnly (lib : Library) : Prop where
  parsed : ∀ text root, lib.parse text = .ok root → root.AllText
  converted : ∀ s w, lib.toWide s = some w → Utf8.Valid s

section OnlyConfigErrors

variable {α β : Type}

theorem onlyConfigErrors_ok (a : α) : OnlyConfigErrors (.ok a : Except Thrown α) :=
  fun _ h => (nomatch h)

theorem onlyConfigErrors_fail (message : ConfigError) :
    OnlyConfigErrors (fail message : Except Thrown α) := by
  intro e h
  cases h
  exact ⟨message, rfl⟩

theorem onlyConfigErrors_lift (x : Except ConfigError α) : OnlyConfigErrors (lift x) := by
  cases x with
  | ok a => exact onlyConfigErrors_ok a
  | error message => exact onlyConfigErrors_fail message

/-- A sequence throws what its parts throw. -/
theorem onlyConfigErrors_bind (x : Except Thrown α) (f : α → Except Thrown β)
    (hx : OnlyConfigErrors x) (hf : ∀ a, x = .ok a → OnlyConfigErrors (f a)) :
    OnlyConfigErrors (x >>= f) := by
  cases x with
  | ok a => exact hf a rfl
  | error e =>
      obtain ⟨message, rfl⟩ := hx e rfl
      exact onlyConfigErrors_fail message

/-- So does a loop. -/
theorem onlyConfigErrors_foldlM (f : β → α → Except Thrown β)
    (hf : ∀ b a, OnlyConfigErrors (f b a)) (l : List α) (b : β) :
    OnlyConfigErrors (l.foldlM f b) := by
  induction l generalizing b with
  | nil => exact onlyConfigErrors_ok b
  | cons a l ih =>
      rw [List.foldlM_cons]
      exact onlyConfigErrors_bind _ _ (hf b a) fun b' _ => ih b'

end OnlyConfigErrors

section Edit

variable {os : Platform}

theorem onlyConfigErrors_isWanted (wanted : WString) (n : Json) :
    OnlyConfigErrors (isWanted os wanted n) := by
  cases n with
  -- Only a text is converted, and the conversion throws a `ConfigError`.
  | string s =>
      change OnlyConfigErrors (lift (utf8ToWide os s) >>= fun w =>
        pure (namesEqualIgnoreCase os.host w wanted))
      exact onlyConfigErrors_bind _ _ (onlyConfigErrors_lift _) fun _ _ => onlyConfigErrors_ok _
  | discarded => exact onlyConfigErrors_ok false
  | null => exact onlyConfigErrors_ok false
  | boolean b => exact onlyConfigErrors_ok false
  | integer n => exact onlyConfigErrors_ok false
  | float x => exact onlyConfigErrors_ok false
  | array elements => exact onlyConfigErrors_ok false
  | object members => exact onlyConfigErrors_ok false

theorem onlyConfigErrors_keepOthers (wanted : WString) (names : List Json) :
    OnlyConfigErrors (keepOthers os wanted names) := by
  induction names with
  | nil => exact onlyConfigErrors_ok []
  | cons n names ih =>
      refine onlyConfigErrors_bind _ _ (onlyConfigErrors_isWanted wanted n) fun same _ => ?_
      exact onlyConfigErrors_bind _ _ ih fun kept _ => onlyConfigErrors_ok _

/-- What is kept was there. -/
theorem keepOthers_subset (wanted : WString) (names kept : List Json)
    (h : keepOthers os wanted names = .ok kept) : kept ⊆ names := by
  induction names generalizing kept with
  | nil =>
      cases h
      exact List.Subset.refl _
  | cons n names ih =>
      simp only [keepOthers, bind_eq_ok_iff] at h
      rcases h with ⟨same, _, rest, hrest, h⟩
      cases h
      have hsub := ih rest hrest
      -- Each entry is kept or left out.
      split_ifs
      · exact List.subset_cons_of_subset _ hsub
      · exact List.cons_subset_cons _ hsub

/-- One turn of the loop: a list that is there is an array, and some of its
    entries are kept. -/
theorem dropName_cases (os : Platform) (wanted : WString) (processes : List (Bytes × Json))
    (list : Bytes) :
    (Json.find processes list = none ∧ dropName os wanted processes list = .ok processes) ∨
      (∃ elements, Json.find processes list = some (.array elements) ∧
        dropName os wanted processes list = (keepOthers os wanted elements >>= fun kept =>
          pure (Json.setMember processes list (.array kept)))) ∨
      ∃ v message, Json.find processes list = some v ∧ v.isArray = false ∧
        dropName os wanted processes list = fail message := by
  unfold dropName
  rcases Json.find processes list with _ | names
  · exact Or.inl ⟨rfl, rfl⟩
  · refine Or.inr ?_
    -- What is no array is an error, and the list is not touched.
    by_cases harray : names.isArray = true
    · obtain ⟨elements, rfl⟩ := (Json.isArray_iff names).mp harray
      exact Or.inl ⟨elements, rfl, rfl⟩
    · rw [Bool.not_eq_true] at harray
      refine Or.inr
        ⟨names, ascii "processes." ++ list ++ ascii " must be an array", rfl, harray, ?_⟩
      dsimp only
      rw [harray]
      rfl

theorem onlyConfigErrors_dropName (wanted : WString) (processes : List (Bytes × Json))
    (list : Bytes) : OnlyConfigErrors (dropName os wanted processes list) := by
  rcases dropName_cases os wanted processes list with ⟨_, heq⟩ | ⟨elements, _, heq⟩ |
    ⟨_, message, _, _, heq⟩
  · rw [heq]
    exact onlyConfigErrors_ok processes
  · rw [heq]
    exact onlyConfigErrors_bind _ _ (onlyConfigErrors_keepOthers wanted elements)
      fun kept _ => onlyConfigErrors_ok _
  · rw [heq]
    exact onlyConfigErrors_fail message

/-- After one turn the list is missing or an array, and the others are as they
    were. A document stays text. -/
theorem dropName_eq_ok (wanted : WString) (processes processes' : List (Bytes × Json))
    (list : Bytes) (h : dropName os wanted processes list = .ok processes') :
    (∀ key, key ≠ list → Json.find processes' key = Json.find processes key) ∧
      (∀ v, Json.find processes' list = some v → v.isArray = true) ∧
      (Utf8.Valid list → Json.AllText (.object processes) → Json.AllText (.object processes')) := by
  rcases dropName_cases os wanted processes list with ⟨hnone, heq⟩ | ⟨elements, hfind, heq⟩ |
    ⟨_, message, _, _, heq⟩
  · rw [heq] at h
    cases h
    refine ⟨fun _ _ => rfl, fun v hv => ?_, fun _ htext => htext⟩
    rw [hnone] at hv
    cases hv
  · rw [heq, bind_eq_ok_iff] at h
    rcases h with ⟨kept, hkept, h⟩
    cases h
    refine ⟨fun key hkey => by rw [Json.find_setMember, if_neg hkey], fun v hv => ?_, ?_⟩
    · rw [Json.find_setMember, if_pos rfl] at hv
      cases hv
      rfl
    · intro hlist htext
      refine Json.allText_setMember _ _ _ htext hlist ((Json.allText_array kept).mpr ?_)
      -- What is kept of the list is part of what was in it.
      have helements := (Json.allText_array elements).mp (Json.allText_find _ _ _ htext hfind)
      exact fun j hj => helements j (keepOthers_subset wanted elements kept hkept hj)
  · rw [heq] at h
    cases h

/-- The loop over the lists. -/
theorem foldlM_dropName_eq_ok (wanted : WString) (lists : List Bytes)
    (processes processes' : List (Bytes × Json))
    (h : lists.foldlM (dropName os wanted) processes = .ok processes') :
    (∀ key, key ∉ lists → Json.find processes' key = Json.find processes key) ∧
      (∀ key ∈ lists, ∀ v, Json.find processes' key = some v → v.isArray = true) ∧
      ((∀ list ∈ lists, Utf8.Valid list) → Json.AllText (.object processes) →
        Json.AllText (.object processes')) := by
  -- By induction on the lists: each turn says what it does, and the later turns keep it.
  induction lists generalizing processes with
  | nil =>
      cases h
      exact ⟨fun _ _ => rfl, fun _ hkey => absurd hkey List.not_mem_nil, fun _ htext => htext⟩
  | cons list lists ih =>
      rw [List.foldlM_cons, bind_eq_ok_iff] at h
      rcases h with ⟨middle, hone, hrest⟩
      have hone' := dropName_eq_ok wanted processes middle list hone
      have hrest' := ih middle hrest
      refine ⟨fun key hkey => ?_, fun key hkey v hv => ?_, fun hvalid htext => ?_⟩
      · rw [List.mem_cons, not_or] at hkey
        rw [hrest'.1 key hkey.2, hone'.1 key hkey.1]
      · by_cases hlater : key ∈ lists
        · exact hrest'.2.1 key hlater v hv
        · -- No later turn touches the list of this one.
          rw [hrest'.1 key hlater] at hv
          rcases List.mem_cons.mp hkey with rfl | hkey
          · exact hone'.2.1 v hv
          · exact absurd hkey hlater
      · rw [List.forall_mem_cons] at hvalid
        exact hrest'.2.2 hvalid.2 (hone'.2.2 hvalid.1 htext)

/-- A name is added to a list that is missing or an array. -/
theorem addName_of_isArray (processes : List (Bytes × Json)) (role name : Bytes)
    (h : ∀ v, Json.find processes role = some v → v.isArray = true) :
    ∃ elements, (Json.find processes role).getD (.array []) = .array elements ∧
      addName processes role name
        = .ok (Json.setMember processes role (.array (elements ++ [.string name]))) := by
  unfold addName
  rcases hfind : Json.find processes role with _ | v
  · exact ⟨[], rfl, rfl⟩
  · obtain ⟨elements, rfl⟩ := (Json.isArray_iff v).mp (h v hfind)
    exact ⟨elements, rfl, rfl⟩

theorem valid_of_mem_roleLists (list : Bytes) (h : list ∈ roleLists) : Utf8.Valid list := by
  simp only [roleLists, List.mem_cons, List.not_mem_nil, or_false] at h
  rcases h with rfl | rfl | rfl <;> exact Json.valid_ascii _ (by decide)

theorem processesOf_cases (root : Json) :
    (∃ members processes, root = .object members ∧
      Json.find members (ascii "processes") = some (.object processes) ∧
      processesOf root = .ok (members, processes)) ∨
      ∃ message, processesOf root = fail message := by
  unfold processesOf
  split
  · next members =>
    split
    · next processes hfind => exact Or.inl ⟨members, processes, rfl, hfind, rfl⟩
    · exact Or.inr ⟨_, rfl⟩
  · exact Or.inr ⟨_, rfl⟩

/-- What is done to the document, once it has a section `processes`. -/
theorem reassign_eq (members processes : List (Bytes × Json)) (name role : Bytes)
    (hfind : Json.find members (ascii "processes") = some (.object processes)) :
    reassign os (.object members) name role
      = (lift (utf8ToWide os name) >>= fun wanted =>
          roleLists.foldlM (dropName os wanted) processes >>= fun dropped =>
            giveRole dropped role name >>= fun named =>
              pure (.object (Json.setMember members (ascii "processes") (.object named)))) := by
  have hprocesses : processesOf (.object members) = .ok (members, processes) := by
    simp only [processesOf, hfind]
    rfl
  unfold reassign
  rw [hprocesses]
  rfl

/-- The last step of the edit never fails. -/
theorem named_eq_ok (wanted : WString) (processes dropped : List (Bytes × Json))
    (name role : Bytes) (hrole : role ∈ roles)
    (hdropped : roleLists.foldlM (dropName os wanted) processes = .ok dropped) :
    ∃ named, giveRole dropped role name = .ok named ∧
      (Json.AllText (.object dropped) → Utf8.Valid name → Json.AllText (.object named)) := by
  -- The role `none` adds the name nowhere.
  by_cases hnone : role = ascii "none"
  · exact ⟨dropped, if_neg (not_not.mpr hnone), fun htext _ => htext⟩
  · have hlist : role ∈ roleLists := by
      simp only [roles, List.mem_cons, List.not_mem_nil, or_false, hnone] at hrole
      simpa [roleLists] using hrole
    have harray := (foldlM_dropName_eq_ok wanted roleLists processes dropped hdropped).2.1 role
      hlist
    obtain ⟨elements, helements, hadd⟩ := addName_of_isArray dropped role name harray
    refine ⟨_, (if_pos hnone).trans hadd, fun htext hname => ?_⟩
    refine Json.allText_setMember _ _ _ htext (valid_of_mem_roleLists role hlist)
      ((Json.allText_array _).mpr ?_)
    intro j hj
    rcases List.mem_append.mp hj with hj | hj
    · -- The other entries were in the list.
      rcases hfind : Json.find dropped role with _ | v
      · rw [hfind] at helements
        cases helements
        exact absurd hj List.not_mem_nil
      · rw [hfind] at helements
        cases helements
        exact (Json.allText_array elements).mp (Json.allText_find _ _ _ htext hfind) j hj
    · rw [List.mem_singleton.mp hj, Json.allText_string]
      exact hname

theorem onlyConfigErrors_reassign (root : Json) (name role : Bytes) (hrole : role ∈ roles) :
    OnlyConfigErrors (reassign os root name role) := by
  rcases processesOf_cases root with ⟨members, processes, rfl, hfind, _⟩ | ⟨message, heq⟩
  · rw [reassign_eq members processes name role hfind]
    refine onlyConfigErrors_bind _ _ (onlyConfigErrors_lift _) fun wanted _ => ?_
    refine onlyConfigErrors_bind _ _
      (onlyConfigErrors_foldlM _ (onlyConfigErrors_dropName wanted) _ _) fun dropped hdropped => ?_
    obtain ⟨named, hnamed, _⟩ := named_eq_ok wanted processes dropped name role hrole hdropped
    rw [hnamed]
    exact onlyConfigErrors_ok _
  · unfold reassign
    rw [heq]
    exact onlyConfigErrors_fail message

/-- The document is edited only if the name can be converted, and it stays text if
    the name is text. -/
theorem reassign_eq_ok (root edited : Json) (name role : Bytes) (hrole : role ∈ roles)
    (h : reassign os root name role = .ok edited) :
    (∃ wanted, utf8ToWide os name = .ok wanted) ∧
      (root.AllText → Utf8.Valid name → edited.AllText) := by
  rcases processesOf_cases root with ⟨members, processes, rfl, hfind, _⟩ | ⟨message, heq⟩
  · rw [reassign_eq members processes name role hfind, bind_eq_ok_iff] at h
    rcases h with ⟨wanted, hwanted, h⟩
    rw [bind_eq_ok_iff] at h
    rcases h with ⟨dropped, hdropped, h⟩
    -- The name goes out of all lists, and then into one.
    obtain ⟨named, hnamed, htextNamed⟩ :=
      named_eq_ok wanted processes dropped name role hrole hdropped
    rw [hnamed] at h
    cases h
    refine ⟨?_, fun htext hname => ?_⟩
    · cases hwide : utf8ToWide os name with
      | ok w => exact ⟨w, rfl⟩
      | error message =>
          rw [hwide] at hwanted
          cases hwanted
    · have htextProcesses := Json.allText_find _ _ _ htext hfind
      have htextDropped := (foldlM_dropName_eq_ok wanted roleLists processes dropped hdropped).2.2
        valid_of_mem_roleLists htextProcesses
      exact Json.allText_setMember _ _ _ htext (Json.valid_ascii _ (by decide))
        (htextNamed htextDropped hname)
  · unfold reassign at h
    rw [heq] at h
    cases h

end Edit

section Escapes

variable {lib : Library}

theorem onlyConfigErrors_parseConfig (lib : Library) (jsonText : Bytes) :
    OnlyConfigErrors (Throwing.parseConfig lib jsonText) := by
  rw [Throwing.parseConfig_eq]
  exact onlyConfigErrors_lift _

/-- The end of `SetProcessRole`, once there is a document. -/
theorem onlyConfigErrors_edited (hlib : lib.TextOnly) (jsonText name role : Bytes) (root : Json)
    (hroot : lib.parse jsonText = .ok root) (hname : name ≠ []) (hrole : role ∈ roles) :
    OnlyConfigErrors (reassign lib.platform root name role >>= fun edited =>
      access edited.dump >>= fun document =>
        Throwing.parseConfig lib (lib.write document ++ [10]) >>= fun _ =>
          pure (lib.write document ++ [10])) := by
  refine onlyConfigErrors_bind _ _ (onlyConfigErrors_reassign root name role hrole)
    fun edited hedited => ?_
  obtain ⟨⟨wanted, hwanted⟩, htext⟩ := reassign_eq_ok root edited name role hrole hedited
  -- A name that was converted is text, and so is the document.
  have hvalid : Utf8.Valid name := by
    unfold utf8ToWide at hwanted
    rw [if_neg hname] at hwanted
    cases hwide : lib.platform.toWide name with
    | none =>
        rw [hwide] at hwanted
        cases hwanted
    | some w => exact hlib.converted name w hwide
  have hdump := Json.dump_of_allText edited (htext (hlib.parsed jsonText root hroot) hvalid)
  rw [hdump]
  exact onlyConfigErrors_bind (Throwing.parseConfig lib (lib.write edited ++ [10])) _
    (onlyConfigErrors_parseConfig lib _) fun _ _ => onlyConfigErrors_ok _

/-- Nothing but `ConfigError` is thrown exactly if the arguments are refused or the
    parser does not stop at a number that no `double` holds. -/
theorem onlyConfigErrors_iff (lib : Library) (hlib : lib.TextOnly)
    (jsonText processName role : Bytes) :
    (OnlyConfigErrors (Throwing.parseConfig lib jsonText) ∧
        OnlyConfigErrors (setProcessRole lib jsonText processName role)) ↔
      ¬ (role ∈ roles ∧ IsExecutable processName ∧
        ∃ what, lib.parse jsonText = .error (.outOfRange what)) := by
  rw [and_iff_right (onlyConfigErrors_parseConfig lib jsonText)]
  unfold setProcessRole
  by_cases hrole : role ∈ roles
  · by_cases hname : processName = [] ∨ (processName.any fun c => c == 92 || c == 47) = true
    · -- The name is refused.
      rw [if_neg (not_not.mpr hrole), if_pos hname]
      refine iff_of_true (onlyConfigErrors_fail _) fun h => ?_
      rcases hname with hempty | hslash
      · exact h.2.1.1 hempty
      · rw [h.2.1.2] at hslash
        cases hslash
    · rw [if_neg (not_not.mpr hrole), if_neg hname]
      rw [not_or, Bool.not_eq_true] at hname
      unfold parseToEdit
      rcases hparse : lib.parse jsonText with e | root
      · cases e with
        | parseError what =>
            refine iff_of_true (onlyConfigErrors_fail _) fun h => ?_
            obtain ⟨what', hwhat⟩ := h.2.2
            cases hwhat
        | outOfRange what =>
            -- The exception leaves `SetProcessRole` as it is.
            refine iff_of_false (fun h => ?_) fun h => h ⟨hrole, hname, what, rfl⟩
            obtain ⟨message, hmessage⟩ := h _ rfl
            cases hmessage
      · refine iff_of_true
          (onlyConfigErrors_edited hlib jsonText processName role root hparse hname.1 hrole)
          fun h => ?_
        obtain ⟨what, hwhat⟩ := h.2.2
        cases hwhat
  · rw [if_pos hrole]
    exact iff_of_true (onlyConfigErrors_fail _) fun h => hrole h.1

end Escapes

section Samples

/-- The names of a list, with one more if it is the list of a role. -/
def sampleNames (names : List Bytes) (list role : Bytes) : List Bytes :=
  names ++ if role = list then [ascii "c.exe"] else []

/-- A threshold with three samples. -/
def sampleThreshold (percent : Int) : Json :=
  .object [(ascii "percent", .integer percent), (ascii "consecutive_samples", .integer 3)]

/-- A list of names in the document, and in its text. -/
def sampleList (names : List Bytes) (list role : Bytes) : Json :=
  .array ((sampleNames names list role).map .string)

/-- A list of names as it is written, one to a line. -/
def sampleLine : List Bytes → Bytes
  | [] => ascii "[]"
  | name :: names =>
      ascii "[\n      \"" ++ name ++
        names.flatMap (fun n => ascii "\",\n      \"" ++ n) ++ ascii "\"\n    ]"

/-- A configuration with the process `c.exe` in a role. -/
def sampleRoot (role : Bytes) : Json :=
  .object
    [(ascii "polling", .object [(ascii "interval_ms", .integer 1000)]),
     (ascii "thresholds", .object
       [(ascii "high", sampleThreshold 80), (ascii "critical", sampleThreshold 90),
        (ascii "low", sampleThreshold 20)]),
     (ascii "processes", .object
       [(ascii "critical", sampleList [ascii "a.exe"] (ascii "critical") role),
        (ascii "batch", sampleList [ascii "b.exe"] (ascii "batch") role),
        (ascii "protected", sampleList [] (ascii "protected") role)]),
     (ascii "logging", .object
       [(ascii "log_path", .string (ascii "t.log")), (ascii "max_file_size_mb", .integer 1),
        (ascii "max_rotated_files", .integer 1)])]

/-- The document as it is written, up to the lists. -/
def sampleHead : Bytes :=
  ascii "\x7b\n  \"polling\": \x7b\n    \"interval_ms\": 1000\n  \x7d,\n" ++
    ascii "  \"thresholds\": \x7b\n    \"high\": \x7b\n      \"percent\": 80,\n" ++
    ascii "      \"consecutive_samples\": 3\n    \x7d,\n    \"critical\": \x7b\n" ++
    ascii "      \"percent\": 90,\n      \"consecutive_samples\": 3\n    \x7d,\n" ++
    ascii "    \"low\": \x7b\n      \"percent\": 20,\n      \"consecutive_samples\": 3\n" ++
    ascii "    \x7d\n  \x7d,\n  \"processes\": \x7b\n    "

/-- The lists as they are written, with `c.exe` in one of them. -/
def sampleLists (role : Bytes) : Bytes :=
  ascii "\"critical\": " ++ sampleLine (sampleNames [ascii "a.exe"] (ascii "critical") role) ++
    ascii ",\n    \"batch\": " ++ sampleLine (sampleNames [ascii "b.exe"] (ascii "batch") role) ++
    ascii ",\n    \"protected\": " ++ sampleLine (sampleNames [] (ascii "protected") role)

/-- The document as it is written, from the end of the lists on. -/
def sampleTail : Bytes :=
  ascii "\n  \x7d,\n  \"logging\": \x7b\n    \"log_path\": \"t.log\",\n" ++
    ascii "    \"max_file_size_mb\": 1,\n    \"max_rotated_files\": 1\n  \x7d\n\x7d"

/-- The text of `sampleRoot`. -/
def sampleText (role : Bytes) : Bytes := sampleHead ++ sampleLists role ++ sampleTail

/-- A number that no `double` holds. -/
def largeNumber : Bytes := ascii "\x7b\"x\":1e309\x7d"

/-- What the library does with these texts. -/
def sampleLibrary : Library where
  host := ⟨1000, id⟩
  parse text :=
    match roles.find? fun role => sampleText role ++ [10] == text with
    | some role => .ok (sampleRoot role)
    | none =>
        if text = largeNumber then
          .error (.outOfRange (ascii
            "[json.exception.out_of_range.406] number overflow parsing '1e309'"))
        else .error (.parseError (ascii "syntax error"))
  write root :=
    match roles.find? fun role => (sampleRoot role).strings == root.strings with
    | some role => sampleText role
    | none => []
  toWide s := if Utf8.Valid s then some (s.map UInt8.toUInt16) else none
  toUtf8 s := s.map UInt16.toUInt8
  unprotectSecret := .ok

theorem sampleText_eq_iff (role role' : Bytes) :
    sampleText role = sampleText role' ↔ sampleLists role = sampleLists role' := by
  unfold sampleText
  rw [List.append_left_inj, List.append_right_inj]

/-- The library reads the text of a document. -/
theorem parse_sampleText (role : Bytes) (hrole : role ∈ roles) :
    sampleLibrary.parse (sampleText role ++ [10]) = .ok (sampleRoot role) := by
  have hsame : (fun r => sampleText r ++ [10] == sampleText role ++ [10])
      = fun r => sampleLists r == sampleLists role := by
    funext r
    rw [Bool.eq_iff_iff, beq_iff_eq, beq_iff_eq, List.append_left_inj, sampleText_eq_iff]
  have hlists : ∀ role ∈ roles,
      (roles.find? fun r => sampleLists r == sampleLists role) = some role := by decide +kernel
  simp only [sampleLibrary, hsame, hlists role hrole]

theorem write_sampleRoot (role : Bytes) (hrole : role ∈ roles) :
    sampleLibrary.write (sampleRoot role) = sampleText role := by
  have hfind : ∀ role ∈ roles,
      (roles.find? fun r => (sampleRoot r).strings == (sampleRoot role).strings)
        = some role := by decide +kernel
  simp only [sampleLibrary, hfind role hrole]

/-- What the library reads is one of the documents. -/
theorem parse_sampleLibrary (text : Bytes) (root : Json)
    (h : sampleLibrary.parse text = .ok root) : ∃ role ∈ roles, root = sampleRoot role := by
  simp only [sampleLibrary] at h
  split at h
  · next role hfind =>
      cases h
      exact ⟨role, List.mem_of_find?_eq_some hfind, rfl⟩
  · split_ifs at h

theorem sampleLibrary_textOnly : sampleLibrary.TextOnly where
  parsed text root h := by
    have htext : ∀ role ∈ roles, (sampleRoot role).AllText := by
      have hascii : ∀ role ∈ roles, ∀ s ∈ (sampleRoot role).strings, ∀ c ∈ s, c < 128 := by
        decide +kernel
      exact fun role hrole s hs => Utf8.valid_of_ascii s (hascii role hrole s hs)
    obtain ⟨role, hrole, rfl⟩ := parse_sampleLibrary text root h
    exact htext role hrole
  converted s w h := by
    simp only [sampleLibrary] at h
    split_ifs at h with hvalid
    exact hvalid

theorem parse_largeNumber : sampleLibrary.parse largeNumber = .error (.outOfRange (ascii
    "[json.exception.out_of_range.406] number overflow parsing '1e309'")) := by
  have hfind : (roles.find? fun role => sampleText role ++ [10] == largeNumber) = none := by
    decide +kernel
  simp only [sampleLibrary, hfind, if_pos]

/-- Where the two part: the number is a `ConfigError` for `ParseConfig` only. -/
theorem number_escapes :
    sampleLibrary.TextOnly ∧ IsExecutable (ascii "c.exe") ∧
      OnlyConfigErrors (Throwing.parseConfig sampleLibrary largeNumber) ∧
      ¬ OnlyConfigErrors (setProcessRole sampleLibrary largeNumber (ascii "c.exe")
        (ascii "batch")) := by
  refine ⟨sampleLibrary_textOnly, ⟨by decide, by decide⟩, onlyConfigErrors_parseConfig _ _,
    fun h => ?_⟩
  -- `SetProcessRole` only catches a `parse_error`, and this is none.
  have hescapes : setProcessRole sampleLibrary largeNumber (ascii "c.exe") (ascii "batch")
      = .error (.parsing (.outOfRange (ascii
        "[json.exception.out_of_range.406] number overflow parsing '1e309'"))) := by
    have hrole : ascii "batch" ∈ roles := by decide
    have hname : ¬ (ascii "c.exe" = [] ∨
      ((ascii "c.exe").any fun c => c == 92 || c == 47) = true) := by decide
    unfold setProcessRole parseToEdit
    rw [if_neg (not_not.mpr hrole), if_neg hname, parse_largeNumber]
    rfl
  obtain ⟨message, hmessage⟩ := h _ hescapes
  cases hmessage

theorem onlyConfigErrors_sample :
    OnlyConfigErrors
        (Throwing.parseConfig sampleLibrary (sampleText (ascii "none") ++ [10])) ∧
      OnlyConfigErrors (setProcessRole sampleLibrary (sampleText (ascii "none") ++ [10])
        (ascii "c.exe") (ascii "batch")) := by
  refine (onlyConfigErrors_iff sampleLibrary sampleLibrary_textOnly _ _ _).mpr ?_
  rintro ⟨_, _, what, hwhat⟩
  rw [parse_sampleText (ascii "none") (by decide)] at hwhat
  cases hwhat

end Samples

end Config

end ThreadHaul
