import OAuthEndpoint.Proofs.Data.Keys
import OAuthEndpoint.Toml.Document

/-! The keys of TOML documents.  No statement puts a key into a table that has it, so what is read
of a document has each key once, at any depth (`keyedOnce_of_parse`). -/

namespace OAuthEndpoint.Toml

variable {key : String} {path : List String} {data : Data} {node : Node}
  {entries entries' : Entries}

/-- No table in the node, at any depth, has a key twice. -/
inductive Node.KeyedOnce : Node → Prop
  | leaf {data : Data} (data_once : data.KeyedOnce) : KeyedOnce (.leaf data)
  | table {origin : Origin} {entries : Entries} (distinct : (entries.map Prod.fst).Nodup)
      (nodes_once : ∀ entry ∈ entries, KeyedOnce entry.2) : KeyedOnce (.table origin entries)
  | tables {earlier : List Entries} {last : Entries}
      (distinct : ∀ entries ∈ last :: earlier, (entries.map Prod.fst).Nodup)
      (nodes_once : ∀ entries ∈ last :: earlier, ∀ entry ∈ entries, KeyedOnce entry.2) :
      KeyedOnce (.tables earlier last)

/-- Entries each of whose keys stands once, and so in all tables in them. -/
structure Entries.KeyedOnce (entries : Entries) : Prop where
  distinct : (entries.map Prod.fst).Nodup
  nodes_once : ∀ entry ∈ entries, entry.2.KeyedOnce

/-! ### Tables as data -/

theorem entriesData_eq_map (entries : Entries) :
    entriesData entries = entries.map fun entry => (entry.1, entry.2.toData) := by
  induction entries with
  | nil => rfl
  | cons entry entries ih => rw [entriesData, ih, List.map_cons]

theorem tablesData_eq_map (tables : List Entries) :
    tablesData tables = tables.map fun entries => .table (entriesData entries) := by
  induction tables with
  | nil => rfl
  | cons entries tables ih => rw [tablesData, ih, List.map_cons]

theorem keyedOnce_entriesData (distinct : (entries.map Prod.fst).Nodup)
    (h : ∀ entry ∈ entries, entry.2.toData.KeyedOnce) :
    (Data.table (entriesData entries)).KeyedOnce := by
  rw [entriesData_eq_map]
  refine .table (by simpa [Function.comp_def] using distinct) fun entry hentry => ?_
  obtain ⟨source, hsource, rfl⟩ := List.mem_map.mp hentry
  exact h source hsource

theorem Node.KeyedOnce.toData (h : node.KeyedOnce) : node.toData.KeyedOnce := by
  induction h with
  | leaf data_once => exact data_once
  | table distinct nodes_once ih => exact keyedOnce_entriesData distinct ih
  | @tables earlier last distinct nodes_once ih =>
    rw [Node.toData, tablesData_eq_map]
    refine .list fun item hitem => ?_
    have hsource : ∃ entries ∈ last :: earlier, Data.table (entriesData entries) = item := by
      simpa [or_comm, eq_comm] using hitem
    obtain ⟨entries, hentries, rfl⟩ := hsource
    exact keyedOnce_entriesData (distinct entries hentries) (ih entries hentries)

namespace Entries

theorem KeyedOnce.toData (h : entries.KeyedOnce) :
    (Data.table (entriesData entries)).KeyedOnce :=
  keyedOnce_entriesData h.distinct fun entry hentry => (h.nodes_once entry hentry).toData

theorem keyedOnce_nil : KeyedOnce [] := ⟨List.nodup_nil, List.forall_mem_nil _⟩

theorem KeyedOnce.of_lookup (h : entries.KeyedOnce) (hnode : entries.lookup key = some node) :
    node.KeyedOnce :=
  h.nodes_once (key, node) (Data.mem_of_lookup hnode)

theorem KeyedOnce.table (h : entries.KeyedOnce) (origin : Origin) :
    (Node.table origin entries).KeyedOnce :=
  .table h.distinct h.nodes_once

theorem keyedOnce_of_table {origin : Origin} (h : (Node.table origin entries).KeyedOnce) :
    entries.KeyedOnce := by
  cases h with
  | table distinct nodes_once => exact ⟨distinct, nodes_once⟩

theorem keyedOnce_of_tables {earlier : List Entries} {last : Entries}
    (h : (Node.tables earlier last).KeyedOnce) :
    ∀ entries ∈ last :: earlier, KeyedOnce entries := by
  cases h with
  | tables distinct nodes_once =>
    exact fun entries hentries => ⟨distinct entries hentries, nodes_once entries hentries⟩

theorem KeyedOnce.tables {earlier : List Entries} {last : Entries}
    (hlast : last.KeyedOnce) (hearlier : ∀ entries ∈ earlier, KeyedOnce entries) :
    (Node.tables earlier last).KeyedOnce := by
  have hall : ∀ entries ∈ last :: earlier, KeyedOnce entries :=
    List.forall_mem_cons.mpr ⟨hlast, hearlier⟩
  exact .tables (fun entries h => (hall entries h).distinct)
    fun entries h => (hall entries h).nodes_once

/-! ### Changes -/

theorem KeyedOnce.put (h : entries.KeyedOnce) (key : String) (hnode : node.KeyedOnce) :
    KeyedOnce (Data.put key node entries) where
  distinct := Data.nodup_keys_put h.distinct key node
  nodes_once entry hentry := by
    rcases Data.mem_put hentry with rfl | hentry
    · exact hnode
    · exact h.nodes_once entry hentry

theorem KeyedOnce.append (h : entries.KeyedOnce) (hnew : entries.lookup key = none)
    (hnode : node.KeyedOnce) : KeyedOnce (entries ++ [(key, node)]) where
  distinct := Data.nodup_keys_append h.distinct (Data.lookup_eq_none_iff_not_mem.mp hnew) node
  nodes_once entry hentry := by
    rcases List.mem_append.mp hentry with hentry | hentry
    · exact h.nodes_once entry hentry
    · rw [List.mem_singleton.mp hentry]
      exact hnode

/-- A change of entries that keeps each key once. -/
def Keeps (change : Entries → Option Entries) : Prop :=
  ∀ entries entries', entries.KeyedOnce → change entries = some entries' → entries'.KeyedOnce

/-- A change of an inner table, in its place. -/
theorem Keeps.table {change : Entries → Option Entries} (hchange : Keeps change)
    (h : entries.KeyedOnce) {origin : Origin} {inner : Entries}
    (hinner : entries.lookup key = some (.table origin inner))
    (hresult : (change inner).map (fun inner => Data.put key (.table origin inner) entries) =
      some entries') : entries'.KeyedOnce := by
  obtain ⟨changed, hchanged, rfl⟩ := Option.map_eq_some_iff.mp hresult
  have honce := hchange inner changed (keyedOnce_of_table (h.of_lookup hinner)) hchanged
  exact h.put key (honce.table origin)

/-- A change of the last table of a list, in its place. -/
theorem Keeps.tables {change : Entries → Option Entries} (hchange : Keeps change)
    (h : entries.KeyedOnce) {earlier : List Entries} {last : Entries}
    (hlast : entries.lookup key = some (.tables earlier last))
    (hresult : (change last).map (fun last => Data.put key (.tables earlier last) entries) =
      some entries') : entries'.KeyedOnce := by
  obtain ⟨changed, hchanged, rfl⟩ := Option.map_eq_some_iff.mp hresult
  obtain ⟨hbefore, hearlier⟩ :=
    List.forall_mem_cons.mp (keyedOnce_of_tables (h.of_lookup hlast))
  exact h.put key ((hchange last changed hbefore hchanged).tables hearlier)

/-- A new table with a change made in it. -/
theorem Keeps.fresh {change : Entries → Option Entries} (hchange : Keeps change)
    (h : entries.KeyedOnce) (hnew : entries.lookup key = none) {origin : Origin}
    (hresult : (change []).map (fun inner => entries ++ [(key, .table origin inner)]) =
      some entries') : entries'.KeyedOnce := by
  obtain ⟨changed, hchanged, rfl⟩ := Option.map_eq_some_iff.mp hresult
  exact h.append hnew ((hchange [] changed keyedOnce_nil hchanged).table origin)

theorem keeps_assign (hdata : data.KeyedOnce) (path : List String) : Keeps (assign data path) := by
  -- Along the path the entries are those of ever deeper tables, new ones being empty.
  induction path with
  | nil =>
    intro entries entries' h hresult
    cases hresult
  | cons key path ih =>
    intro entries entries' h hresult
    cases path with
    | nil =>
      rw [assign] at hresult
      split at hresult
      · cases hresult
      · next hnew =>
        rw [Option.some.injEq] at hresult
        rw [← hresult]
        exact h.append (Option.not_isSome_iff_eq_none.mp hnew) (.leaf hdata)
    | cons next path =>
      simp only [assign] at hresult
      split at hresult
      · next hnew => exact ih.fresh h hnew hresult
      · next origin inner hinner =>
        split at hresult
        · cases hresult
        · exact ih.table h hinner hresult
      · next earlier last hlast =>
        split at hresult
        · exact ih.tables h hlast hresult
        · cases hresult
      · cases hresult

theorem keeps_atHeader {change : String → Entries → Option Entries}
    (hchange : ∀ key, Keeps (change key)) (path : List String) : Keeps (atHeader change path) := by
  induction path with
  | nil =>
    intro entries entries' h hresult
    cases hresult
  | cons key path ih =>
    cases path with
    | nil => exact hchange key
    | cons next path =>
      intro entries entries' h hresult
      simp only [atHeader] at hresult
      split at hresult
      · next hnew => exact ih.fresh h hnew hresult
      · next origin inner hinner => exact ih.table h hinner hresult
      · next earlier last hlast => exact ih.tables h hlast hresult
      · cases hresult

theorem keeps_openTable (key : String) : Keeps (openTable key) := by
  intro entries entries' h hresult
  rw [openTable] at hresult
  split at hresult
  · next hnew =>
    rw [Option.some.injEq] at hresult
    rw [← hresult]
    exact h.append hnew (keyedOnce_nil.table .header)
  · next inner hinner =>
    rw [Option.some.injEq] at hresult
    rw [← hresult]
    exact h.put key ((keyedOnce_of_table (h.of_lookup hinner)).table .header)
  · cases hresult

theorem keeps_openItem (key : String) : Keeps (openItem key) := by
  intro entries entries' h hresult
  rw [openItem] at hresult
  split at hresult
  · next hnew =>
    rw [Option.some.injEq] at hresult
    rw [← hresult]
    exact h.append hnew (keyedOnce_nil.tables (List.forall_mem_nil _))
  · next earlier last hlast =>
    rw [Option.some.injEq] at hresult
    rw [← hresult]
    obtain ⟨hbefore, hearlier⟩ :=
      List.forall_mem_cons.mp (keyedOnce_of_tables (h.of_lookup hlast))
    refine h.put key (keyedOnce_nil.tables ?_)
    exact List.forall_mem_append.mpr ⟨hearlier, List.forall_mem_singleton.mpr hbefore⟩
  · cases hresult

theorem keeps_within {change : Entries → Option Entries} (hchange : Keeps change)
    (path : List String) : Keeps (within change path) := by
  induction path with
  | nil => exact hchange
  | cons key path ih =>
    intro entries entries' h hresult
    rw [within] at hresult
    split at hresult
    · next origin inner hinner => exact ih.table h hinner hresult
    · next earlier last hlast => exact ih.tables h hlast hresult
    · cases hresult

end Entries

/-! ### Values -/

/-- What each step keeps, all of them keep. -/
theorem of_foldlM {α β : Type} {step : β → α → Option β} {motive : β → Prop} {items : List α}
    (hstep : ∀ item ∈ items, ∀ state next, motive state → step state item = some next → motive next)
    {start final : β} (hstart : motive start) (h : items.foldlM step start = some final) :
    motive final := by
  induction items generalizing start with
  | nil =>
    rw [List.foldlM_nil] at h
    cases h
    exact hstart
  | cons item items ih =>
    obtain ⟨hitem, hrest⟩ := List.forall_mem_cons.mp hstep
    rw [List.foldlM_cons] at h
    obtain ⟨next, hnext, h⟩ := Option.bind_eq_some_iff.mp h
    exact ih hrest (hitem start next hstart hnext) h

theorem keyedOnce_of_tableOf {members : List (List String × Data)}
    (hmembers : ∀ member ∈ members, member.2.KeyedOnce) (h : tableOf? members = some data) :
    data.KeyedOnce := by
  obtain ⟨entries, hentries, rfl⟩ := Option.map_eq_some_iff.mp h
  have hstep : ∀ member ∈ members, ∀ (state next : Entries), state.KeyedOnce →
      Entries.assign member.2 member.1 state = some next → next.KeyedOnce :=
    fun member hmember => Entries.keeps_assign (hmembers member hmember) member.1
  exact (of_foldlM hstep Entries.keyedOnce_nil hentries).toData

theorem keyedOnce_of_scalar {text : List Char} (h : scalar? text = some data) :
    data.KeyedOnce := by
  rw [scalar?] at h
  split at h
  · cases h
    exact .flag true
  split at h
  · cases h
    exact .flag false
  split at h
  · next n hn =>
    cases h
    exact .integer n
  split at h
  · next x hx =>
    cases h
    exact .float x
  · obtain ⟨moment, -, rfl⟩ := Option.map_eq_some_iff.mp h
    exact .text _

/-- With so much fuel, what is read of values, items and members has each key once. -/
structure ReadOnce (fuel : Nat) : Prop where
  value : ∀ {room text data rest}, value? room fuel text = some (data, rest) → data.KeyedOnce
  items : ∀ {room text items rest}, items? room fuel text = some (items, rest) →
    ∀ item ∈ items, item.KeyedOnce
  members : ∀ {room text members rest}, members? room fuel text = some (members, rest) →
    ∀ member ∈ members, member.2.KeyedOnce

namespace ReadOnce

variable {room fuel : Nat} {text rest : List Char}

theorem value_succ (ih : ReadOnce fuel) (h : value? room (fuel + 1) text = some (data, rest)) :
    data.KeyedOnce := by
  unfold value? at h
  split at h
  · obtain ⟨found, -, hfound⟩ := Option.map_eq_some_iff.mp h
    cases hfound
    exact .text _
  · obtain ⟨found, -, hfound⟩ := Option.map_eq_some_iff.mp h
    cases hfound
    exact .text _
  · split at h
    · cases h
    · obtain ⟨⟨items, after⟩, hread, hfound⟩ := Option.map_eq_some_iff.mp h
      cases hfound
      exact .list (ih.items hread)
  · split at h
    · cases h
    · obtain ⟨⟨members, after⟩, hread, h⟩ := Option.bind_eq_some_iff.mp h
      obtain ⟨table, htable, h⟩ := Option.bind_eq_some_iff.mp h
      cases h
      exact keyedOnce_of_tableOf (ih.members hread) htable
  · obtain ⟨scalar, hscalar, h⟩ := Option.bind_eq_some_iff.mp h
    cases h
    exact keyedOnce_of_scalar hscalar

theorem items_succ (ih : ReadOnce fuel) {items : List Data}
    (h : items? room (fuel + 1) text = some (items, rest)) : ∀ item ∈ items, item.KeyedOnce := by
  unfold items? at h
  obtain ⟨start, -, h⟩ := Option.bind_eq_some_iff.mp h
  split at h
  · cases h
    exact List.forall_mem_nil _
  · obtain ⟨⟨item, after⟩, hitem, h⟩ := Option.bind_eq_some_iff.mp h
    have hfirst := ih.value hitem
    obtain ⟨next, -, h⟩ := Option.bind_eq_some_iff.mp h
    split at h
    · obtain ⟨⟨others, last⟩, hothers, h⟩ := Option.bind_eq_some_iff.mp h
      cases h
      exact List.forall_mem_cons.mpr ⟨hfirst, ih.items hothers⟩
    · cases h
      exact List.forall_mem_singleton.mpr hfirst
    · cases h

theorem members_succ (ih : ReadOnce fuel) {members : List (List String × Data)}
    (h : members? room (fuel + 1) text = some (members, rest)) :
    ∀ member ∈ members, member.2.KeyedOnce := by
  unfold members? at h
  obtain ⟨start, -, h⟩ := Option.bind_eq_some_iff.mp h
  split at h
  · cases h
    exact List.forall_mem_nil _
  · obtain ⟨⟨path, after⟩, -, h⟩ := Option.bind_eq_some_iff.mp h
    dsimp only at h
    split at h
    · obtain ⟨⟨value, after⟩, hread, h⟩ := Option.bind_eq_some_iff.mp h
      have hfirst := ih.value hread
      obtain ⟨next, -, h⟩ := Option.bind_eq_some_iff.mp h
      split at h
      · obtain ⟨⟨others, last⟩, hothers, h⟩ := Option.bind_eq_some_iff.mp h
        cases h
        exact List.forall_mem_cons.mpr ⟨hfirst, ih.members hothers⟩
      · cases h
        exact List.forall_mem_singleton.mpr hfirst
      · cases h
    · cases h

end ReadOnce

theorem readOnce (fuel : Nat) : ReadOnce fuel := by
  induction fuel with
  | zero => exact ⟨nofun, nofun, nofun⟩
  | succ fuel ih => exact ⟨ih.value_succ, ih.items_succ, ih.members_succ⟩

/-! ### Documents -/

/-- A statement whose value has each key once. -/
def Statement.KeyedOnce : Statement → Prop
  | .table _ => True
  | .item _ => True
  | .entry _ value => value.KeyedOnce

theorem keyedOnce_of_statement {text rest : List Char} {statement : Statement}
    (h : statement? text = some (statement, rest)) : statement.KeyedOnce := by
  unfold statement? at h
  split at h
  · obtain ⟨⟨path, after⟩, -, h⟩ := Option.bind_eq_some_iff.mp h
    dsimp only at h
    split at h
    · cases h
      trivial
    · cases h
  · obtain ⟨⟨path, after⟩, -, h⟩ := Option.bind_eq_some_iff.mp h
    dsimp only at h
    split at h
    · cases h
      trivial
    · cases h
  · obtain ⟨⟨path, after⟩, -, h⟩ := Option.bind_eq_some_iff.mp h
    dsimp only at h
    split at h
    · obtain ⟨⟨value, after⟩, hvalue, h⟩ := Option.bind_eq_some_iff.mp h
      cases h
      exact (readOnce _).value hvalue
    · cases h

theorem keyedOnce_of_statements {fuel : Nat} {text : List Char} {statements : List Statement}
    (h : statements? fuel text = some statements) :
    ∀ statement ∈ statements, statement.KeyedOnce := by
  induction fuel generalizing text statements with
  | zero => cases h
  | succ fuel ih =>
    rw [statements?] at h
    obtain ⟨start, -, h⟩ := Option.bind_eq_some_iff.mp h
    split at h
    · cases h
      exact List.forall_mem_nil _
    · obtain ⟨⟨statement, after⟩, hstatement, h⟩ := Option.bind_eq_some_iff.mp h
      obtain ⟨line, -, h⟩ := Option.bind_eq_some_iff.mp h
      obtain ⟨others, hothers, h⟩ := Option.bind_eq_some_iff.mp h
      cases h
      exact List.forall_mem_cons.mpr ⟨keyedOnce_of_statement hstatement, ih hothers⟩

/-- A statement adds no key that is there. -/
theorem keyedOnce_of_step {state next : State} {statement : Statement}
    (hstatement : statement.KeyedOnce) (h : state.root.KeyedOnce)
    (hstep : state.step? statement = some next) : next.root.KeyedOnce := by
  cases statement with
  | table path =>
    obtain ⟨root, hroot, rfl⟩ := Option.map_eq_some_iff.mp hstep
    exact Entries.keeps_atHeader Entries.keeps_openTable path _ _ h hroot
  | item path =>
    obtain ⟨root, hroot, rfl⟩ := Option.map_eq_some_iff.mp hstep
    exact Entries.keeps_atHeader Entries.keeps_openItem path _ _ h hroot
  | entry path value =>
    obtain ⟨root, hroot, rfl⟩ := Option.map_eq_some_iff.mp hstep
    exact Entries.keeps_within (Entries.keeps_assign hstatement path) state.current _ _ h hroot

/-- What is read of a document has each key once. -/
theorem keyedOnce_of_parse {text : String} (h : parse? text = some data) : data.KeyedOnce := by
  rw [parse?] at h
  split at h
  · obtain ⟨statements, hstatements, h⟩ := Option.bind_eq_some_iff.mp h
    obtain ⟨state, hstate, rfl⟩ := Option.map_eq_some_iff.mp h
    have hall := keyedOnce_of_statements hstatements
    have hstep : ∀ statement ∈ statements, ∀ (state next : State), state.root.KeyedOnce →
        state.step? statement = some next → next.root.KeyedOnce :=
      fun statement hmem _ _ hroot => keyedOnce_of_step (hall statement hmem) hroot
    exact (of_foldlM (motive := fun state : State => state.root.KeyedOnce) hstep
      Entries.keyedOnce_nil hstate).toData
  · cases h

end OAuthEndpoint.Toml
