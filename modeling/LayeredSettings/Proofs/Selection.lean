import LayeredSettings.Proofs.RowKeys
import LayeredSettings.Proofs.Utf8Order
import Mathlib.Data.List.Nodup
import Mathlib.Data.Prod.Lex
import Mathlib.Data.String.Basic

set_option autoImplicit false

/-! # Which rows a query selects

No two rows of a table share scope and key, so there is one way to sort them, and the order in which
they are stored is lost. This holds of database files, and of every server that compares texts octet
by octet (`Servers.Holds`). A query without scopes selects the same rows in the same order as one that
lists all scopes there are (`DatabaseSource.load_of_all_scopes`). Rows of scopes that are not listed
are not read, and what a row says stays if no row read after it touches its path
(`DatabaseSource.load_reads`). A row without a path says nothing at all
(`DatabaseSource.load_pathless`). -/

namespace LayeredSettings

namespace Database

variable {rows rows' : List Row} {scopes : List String}

/-! ## The order of rows -/

/-- What rows are put in order by, the scope first. -/
def place (r : Row) : String ×ₗ String :=
  toLex (r.scope, r.key)

theorem rowLe_iff {a b : Row} : rowLe a b = true ↔ place a ≤ place b := by
  unfold rowLe place
  rw [Bool.or_eq_true, decide_eq_true_iff, Bool.and_eq_true, beq_iff_eq, Bool.not_eq_true',
    decide_eq_false_iff_not, not_lt, Prod.Lex.toLex_le_toLex]

theorem pairwise_sorted (rows : List Row) :
    (rows.mergeSort rowLe).Pairwise fun a b => rowLe a b = true := by
  refine List.pairwise_mergeSort (fun a b c hab hbc => ?_) (fun a b => ?_) rows
  · rw [rowLe_iff] at *
    exact hab.trans hbc
  · rw [Bool.or_eq_true, rowLe_iff, rowLe_iff]
    exact le_total (place a) (place b)

/-- No two rows share scope and key. -/
def Keyed (rows : List Row) : Prop :=
  (rows.map fun r => (r.scope, r.key)).Nodup

theorem Keyed.nodup (h : Keyed rows) : rows.Nodup :=
  List.Nodup.of_map _ h

theorem Keyed.filter (h : Keyed rows) (p : Row → Bool) : Keyed (rows.filter p) :=
  h.sublist (List.filter_sublist.map _)

theorem Keyed.of_perm (h : Keyed rows) (hperm : rows'.Perm rows) : Keyed rows' :=
  (hperm.map _).nodup_iff.2 h

/-- There is one way to put the rows in order. -/
theorem Keyed.eq_of_sorted (h : Keyed rows) {sorted sorted' : List Row}
    (hperm : sorted.Perm rows) (hperm' : sorted'.Perm rows)
    (hsorted : sorted.Pairwise fun a b => rowLe a b = true)
    (hsorted' : sorted'.Pairwise fun a b => rowLe a b = true) : sorted = sorted' := by
  refine List.Perm.eq_of_pairwise (fun a b ha hb hab hba => ?_) hsorted hsorted'
    (hperm.trans hperm'.symm)
  have hplace : place a = place b := le_antisymm (rowLe_iff.1 hab) (rowLe_iff.1 hba)
  exact List.inj_on_of_nodup_map h (hperm.mem_iff.1 ha) (hperm'.mem_iff.1 hb) (toLex_inj.1 hplace)

theorem Keyed.mergeSort_eq (h : Keyed rows) (hperm : rows'.Perm rows) :
    rows'.mergeSort rowLe = rows.mergeSort rowLe :=
  h.eq_of_sorted ((List.mergeSort_perm rows' rowLe).trans hperm) (List.mergeSort_perm rows rowLe)
    (pairwise_sorted rows') (pairwise_sorted rows)

/-! ## Selections -/

/-- The rows of a scope by key. -/
def ofScope (rows : List Row) (scope : String) : List Row :=
  (rows.filter fun r => r.scope == scope).mergeSort rowLe

/-- The rows of listed scopes, as they are stored. -/
def listed (scopes : List String) (rows : List Row) : List Row :=
  rows.filter fun r => scopes.contains r.scope

theorem select_of_ne_nil (hscopes : scopes ≠ []) (rows : List Row) :
    select scopes rows = scopes.flatMap (ofScope rows) := by
  rw [select, List.isEmpty_eq_false_iff.2 hscopes]
  rfl

theorem mem_ofScope {scope : String} {r : Row} :
    r ∈ ofScope rows scope ↔ r ∈ rows ∧ r.scope = scope := by
  rw [ofScope, List.mem_mergeSort, List.mem_filter, beq_iff_eq]

theorem Keyed.ofScope_eq (h : Keyed rows) (hperm : rows'.Perm rows) : ofScope rows' = ofScope rows := by
  funext scope
  exact (h.filter _).mergeSort_eq (hperm.filter _)

/-- The order in which rows are stored is lost. -/
theorem Keyed.select_eq (h : Keyed rows) (hperm : rows'.Perm rows) (scopes : List String) :
    select scopes rows' = select scopes rows := by
  by_cases hscopes : scopes = []
  · subst hscopes
    exact h.mergeSort_eq hperm
  · rw [select_of_ne_nil hscopes, select_of_ne_nil hscopes, h.ofScope_eq hperm]

theorem filter_listed {scope : String} (hscope : scope ∈ scopes) (rows : List Row) :
    (listed scopes rows).filter (fun r => r.scope == scope)
      = rows.filter fun r => r.scope == scope := by
  rw [listed, List.filter_filter]
  refine List.filter_congr fun r _ => ?_
  by_cases h : r.scope = scope
  · simp [h, hscope]
  · simp [h]

/-- Rows of other scopes are not read. -/
theorem select_listed (hscopes : scopes ≠ []) (rows : List Row) :
    select scopes (listed scopes rows) = select scopes rows := by
  rw [select_of_ne_nil hscopes, select_of_ne_nil hscopes]
  refine List.flatMap_congr fun scope hscope => ?_
  rw [ofScope, filter_listed hscope, ofScope]

/-! ## All scopes there are -/

/-- The scopes that occur in rows, each once, in the order of their octets. -/
structure ListsScopes (scopes : List String) (rows : List Row) : Prop where
  mem_iff : ∀ scope, scope ∈ scopes ↔ ∃ r ∈ rows, r.scope = scope
  ordered : scopes.Pairwise fun a b => Utf8.encode a < Utf8.encode b

theorem ListsScopes.pairwise (h : ListsScopes scopes rows) : scopes.Pairwise (· < ·) :=
  h.ordered.imp Utf8.encode_lt_encode_iff.1

/-- Rows that are grouped by their scopes are the same rows. -/
theorem flatMap_ofScope_perm (hnodup : scopes.Nodup) (rows : List Row) :
    (scopes.flatMap (ofScope rows)).Perm (listed scopes rows) := by
  induction scopes with
  | nil => simp [listed]
  | cons scope rest ih =>
    obtain ⟨hscope, hrest⟩ := List.nodup_cons.1 hnodup
    have hothers : (listed (scope :: rest) rows).filter (fun r => !(r.scope == scope))
        = listed rest rows := by
      rw [listed, listed, List.filter_filter]
      refine List.filter_congr fun r _ => ?_
      by_cases h : r.scope = scope
      · simp [h, hscope]
      · simp [h]
    have hsplit := List.filter_append_perm (fun r => r.scope == scope) (listed (scope :: rest) rows)
    rw [filter_listed (by simp), hothers] at hsplit
    rw [List.flatMap_cons]
    exact ((List.mergeSort_perm _ rowLe).append (ih hrest)).trans hsplit

/-- Sorted by scope and key, rows stand as those of each scope in turn, sorted by key. -/
theorem Keyed.select_of_lists (h : Keyed rows) (hlists : ListsScopes scopes rows)
    (hscopes : scopes ≠ []) : select scopes rows = select [] rows := by
  have hall : listed scopes rows = rows := by
    refine List.filter_eq_self.2 fun r hr => ?_
    exact List.contains_iff_mem.2 ((hlists.mem_iff r.scope).2 ⟨r, hr, rfl⟩)
  have hnodup : scopes.Nodup := hlists.pairwise.imp ne_of_lt
  have hperm := flatMap_ofScope_perm hnodup rows
  rw [hall] at hperm
  have hsorted : (scopes.flatMap (ofScope rows)).Pairwise fun a b => rowLe a b = true := by
    refine List.pairwise_flatMap.2 ⟨fun scope _ => pairwise_sorted _, ?_⟩
    refine hlists.pairwise.imp fun hlt a ha b hb => rowLe_iff.2 (Prod.Lex.toLex_le_toLex.2 (.inl ?_))
    show a.scope < b.scope
    rwa [(mem_ofScope.1 ha).2, (mem_ofScope.1 hb).2]
  rw [select_of_ne_nil hscopes]
  exact h.eq_of_sorted hperm (List.mergeSort_perm rows rowLe) hsorted (pairwise_sorted rows)

end Database

/-! ## Tables on servers -/

/-- The rows as an engine gives them that compares texts octet by octet: by scope and then by key. -/
structure Database.InOrder (given rows : List Row) : Prop where
  perm : given.Perm rows
  ordered : given.Pairwise fun a b => Database.rowLe a b = true

namespace Servers

open Database

variable {servers : Servers} {dsn table : String} {rows : List Row} {scopes : List String}

/-- The table holds these rows, and its server compares texts octet by octet: it gives all rows in
    order, and of a scope exactly the rows of this scope in order. -/
structure Holds (servers : Servers) (dsn table : String) (rows : List Row) : Prop where
  all : ∃ given, servers.all? dsn table = some given ∧ InOrder given rows
  ofScope : ∀ scope, ∃ given, servers.ofScope? dsn table scope = some given
    ∧ InOrder given (rows.filter fun r => r.scope == scope)

/-- A server of one table that compares texts octet by octet. -/
def holding (dsn table : String) (rows : List Row) : Servers where
  all? dsn' table' := if dsn' = dsn ∧ table' = table then some (rows.mergeSort rowLe) else none
  ofScope? dsn' table' scope :=
    if dsn' = dsn ∧ table' = table then some (Database.ofScope rows scope) else none

theorem holds_holding (dsn table : String) (rows : List Row) :
    (holding dsn table rows).Holds dsn table rows where
  all := ⟨_, if_pos ⟨rfl, rfl⟩, List.mergeSort_perm rows rowLe, pairwise_sorted rows⟩
  ofScope _ := ⟨_, if_pos ⟨rfl, rfl⟩, List.mergeSort_perm _ rowLe, pairwise_sorted _⟩

theorem mapM_of_some {α β : Type} {f : α → Option β} {g : α → β} {l : List α}
    (h : ∀ a ∈ l, f a = some (g a)) : l.mapM f = some (l.map g) := by
  induction l with
  | nil => rfl
  | cons a rest ih =>
    obtain ⟨ha, hrest⟩ := List.forall_mem_cons.1 h
    simp [List.mapM_cons, ha, ih hrest]

/-- Sorted rows are given in one way only. -/
theorem eq_of_inOrder (hkeyed : Keyed rows) {given : List Row} (h : InOrder given rows) :
    given = rows.mergeSort rowLe :=
  hkeyed.eq_of_sorted h.perm (List.mergeSort_perm rows rowLe) h.ordered (pairwise_sorted rows)

theorem Holds.rows?_nil (h : servers.Holds dsn table rows) (hkeyed : Keyed rows) :
    servers.rows? dsn table [] = some (select [] rows) := by
  obtain ⟨given, hgiven, horder⟩ := h.all
  show servers.all? dsn table = some (rows.mergeSort rowLe)
  rw [hgiven, eq_of_inOrder hkeyed horder]

theorem Holds.ofScope?_eq (h : servers.Holds dsn table rows) (hkeyed : Keyed (listed scopes rows))
    {scope : String} (hscope : scope ∈ scopes) :
    servers.ofScope? dsn table scope = some (Database.ofScope rows scope) := by
  obtain ⟨given, hgiven, horder⟩ := h.ofScope scope
  have hone := hkeyed.filter fun r => r.scope == scope
  rw [filter_listed hscope] at hone
  rw [hgiven, eq_of_inOrder hone horder, Database.ofScope]

theorem Holds.rows?_of_ne_nil (h : servers.Holds dsn table rows) (hscopes : scopes ≠ [])
    (hkeyed : Keyed (listed scopes rows)) :
    servers.rows? dsn table scopes = some (select scopes rows) := by
  have hmap : scopes.mapM (servers.ofScope? dsn table)
      = some (scopes.map (Database.ofScope rows)) := by
    exact mapM_of_some fun scope hscope => h.ofScope?_eq hkeyed hscope
  rw [rows?, List.isEmpty_eq_false_iff.2 hscopes, hmap, select_of_ne_nil hscopes]
  rfl

end Servers

/-! ## Loading a table -/

namespace DatabaseSource

open Database

variable {s : DatabaseSource} {w w' : World} {rows rows' : List Row}

/-- The table of the source holds these rows, as they are stored: in its file, or on a server that
    compares texts octet by octet. -/
structure Stores (s : DatabaseSource) (w : World) (rows : List Row) : Prop where
  file : Driver.ofDsn s.dsn = .ok .sqlite →
    ∃ tables, open? w.files s.dsn = some tables ∧ table? tables s.table = some rows
  server : ∀ driver, Driver.ofDsn s.dsn = .ok driver → driver ≠ .sqlite →
    w.servers.Holds s.dsn s.table rows

/-- The rows that the source has a say in: those of its scopes, or all of them if it has none. -/
def inScope (s : DatabaseSource) (rows : List Row) : List Row :=
  if s.scopes = [] then rows else listed s.scopes rows

theorem keyed_inScope (hkeyed : Keyed rows) (s : DatabaseSource) : Keyed (s.inScope rows) := by
  unfold inScope
  split
  · exact hkeyed
  · exact hkeyed.filter _

theorem query_of_stores (hstores : s.Stores w rows) (hkeyed : Keyed (s.inScope rows))
    {driver : Driver} (hdriver : Driver.ofDsn s.dsn = .ok driver) :
    query w.files w.servers driver s.dsn s.table s.scopes = .ok (select s.scopes rows) := by
  have hserver : driver ≠ .sqlite →
      w.servers.rows? s.dsn s.table s.scopes = some (select s.scopes rows) := by
    intro hne
    have hholds := hstores.server driver hdriver hne
    by_cases hscopes : s.scopes = []
    · rw [inScope, if_pos hscopes] at hkeyed
      rw [hscopes]
      exact hholds.rows?_nil hkeyed
    · rw [inScope, if_neg hscopes] at hkeyed
      exact hholds.rows?_of_ne_nil hscopes hkeyed
  cases driver with
  | sqlite =>
    obtain ⟨tables, hopen, htable⟩ := hstores.file hdriver
    simp only [query, fileRows?, hopen, Option.bind_some, htable, Option.map_some]
  | postgres => simp only [query, hserver Driver.noConfusion]
  | mySql => simp only [query, hserver Driver.noConfusion]

theorem ofDsn_of_checkedDriver {driver : Driver} (h : s.checkedDriver = .ok driver) :
    Driver.ofDsn s.dsn = .ok driver := by
  obtain ⟨found, hfound, h⟩ := Except.bind_eq_ok_iff.1 h
  obtain ⟨-, -, h⟩ := Except.bind_eq_ok_iff.1 h
  obtain rfl := Except.ok.inj h
  exact hfound

/-- Once the driver is checked, the settings are those of the selected rows. -/
theorem load_of_stores (hstores : s.Stores w rows) (hkeyed : Keyed (s.inScope rows)) :
    s.load w
      = s.checkedDriver >>= fun _ => treeOfRows s.valueFormat s.table (select s.scopes rows) := by
  unfold load DatabaseSource.rows
  cases hdriver : s.checkedDriver with
  | error e => rfl
  | ok driver =>
    rw [Except.ok_bind, Except.ok_bind,
      query_of_stores hstores hkeyed (ofDsn_of_checkedDriver hdriver), Except.ok_bind]

/-- Sources that differ in their scopes only give the same if they select the same rows. -/
theorem load_congr {scopes : List String} (hstores : s.Stores w rows)
    (hstores' : s.Stores w' rows') (hkeyed : Keyed (s.inScope rows))
    (hkeyed' : Keyed ({ s with scopes := scopes }.inScope rows'))
    (hselect : select scopes rows' = select s.scopes rows) :
    { s with scopes := scopes }.load w' = s.load w := by
  have hscopes : { s with scopes := scopes }.Stores w' rows' := ⟨hstores'.file, hstores'.server⟩
  rw [load_of_stores hscopes hkeyed', load_of_stores hstores hkeyed]
  simp only [checkedDriver, hselect]

theorem treeOfRows_of_load {tree : Tree} (hload : s.load w = .ok tree)
    (hstores : s.Stores w rows) (hkeyed : Keyed (s.inScope rows)) :
    treeOfRows s.valueFormat s.table (select s.scopes rows) = .ok tree := by
  rw [load_of_stores hstores hkeyed] at hload
  obtain ⟨driver, -, htree⟩ := Except.bind_eq_ok_iff.1 hload
  exact htree

/-- **The law of all scopes.** A query without scopes gives what a query for all scopes there are
    gives, listed in the order of their octets. -/
theorem load_of_all_scopes (hstores : s.Stores w rows) (hkeyed : Keyed rows)
    (hlists : ListsScopes s.scopes rows) (hscopes : s.scopes ≠ []) :
    { s with scopes := [] }.load w = s.load w :=
  load_congr hstores hstores (keyed_inScope hkeyed s) (keyed_inScope hkeyed _)
    (hkeyed.select_of_lists hlists hscopes).symm

/-- Rows of two scopes, stored in neither order, in a file that is named from the root and on a
    server. -/
theorem load_of_all_scopes_unsorted :
    let rows : List Row :=
      [⟨"prod", "db.host", some "x"⟩, ⟨"base", "db.port", some "5432"⟩, ⟨"base", "db", some "off"⟩]
    let w : World :=
      { files :=
          { nodes := [(["srv"], .directory), (["srv", "a.db"], .database [("settings", rows)])] }
        servers := .holding "postgres://db.local/app" "settings" rows }
    let source (dsn : String) : DatabaseSource := ⟨dsn, "settings", ["base", "prod"], none⟩
    (Keyed rows ∧ ListsScopes ["base", "prod"] rows)
      ∧ ∀ dsn ∈ ["sqlite:///srv/a.db", "postgres://db.local/app"], (source dsn).Stores w rows
        ∧ { source dsn with scopes := [] }.load w = (source dsn).load w := by
  intro rows w source
  have hkeyed : Keyed rows := by
    unfold Keyed
    decide +kernel
  have hlists : ListsScopes ["base", "prod"] rows := by
    refine ⟨fun scope => ?_, ?_⟩
    · simp [rows, eq_comm, or_comm]
    · simp only [Utf8.encode_lt_encode_iff]
      decide +kernel
  have hfile : (source "sqlite:///srv/a.db").Stores w rows := by
    have hdriver : Driver.ofDsn "sqlite:///srv/a.db" = .ok .sqlite := by decide +kernel
    refine ⟨fun _ => ⟨[("settings", rows)], by decide +kernel, by decide +kernel⟩, ?_⟩
    intro driver hother hne
    exact absurd (Except.ok.inj (hother.symm.trans hdriver)) hne
  have hserver : (source "postgres://db.local/app").Stores w rows := by
    have hdriver : Driver.ofDsn "postgres://db.local/app" = .ok .postgres := by decide +kernel
    refine ⟨fun hother => ?_, fun _ _ _ => Servers.holds_holding _ _ rows⟩
    exact Driver.noConfusion (Except.ok.inj (hother.symm.trans hdriver))
  refine ⟨⟨hkeyed, hlists⟩, fun dsn hdsn => ?_⟩
  have hscopes : (source dsn).scopes ≠ [] := by simp [source]
  simp only [List.mem_cons, List.not_mem_nil, or_false] at hdsn
  rcases hdsn with rfl | rfl
  · exact ⟨hfile, load_of_all_scopes hfile hkeyed hlists hscopes⟩
  · exact ⟨hserver, load_of_all_scopes hserver hkeyed hlists hscopes⟩

/-! ## What settings of a table depend on -/

/-- What is read after a row: the rows of its scope with other keys and those of the scopes behind the
    last mention of its own. -/
theorem exists_select_eq {after : List String} {r : Row} (hkeyed : Keyed rows) (hr : r ∈ rows)
    (hafter : r.scope ∉ after) (before : List String) :
    ∃ earlier later, select (before ++ r.scope :: after) rows = earlier ++ r :: later
      ∧ ∀ t ∈ later, t ∈ rows ∧ t ≠ r ∧ (t.scope = r.scope ∨ t.scope ∈ after) := by
  obtain ⟨lower, upper, hsplit⟩ := List.append_of_mem (mem_ofScope.2 ⟨hr, rfl⟩)
  have hnodup : (ofScope rows r.scope).Nodup :=
    (List.mergeSort_perm _ rowLe).nodup_iff.2 (hkeyed.filter _).nodup
  refine ⟨before.flatMap (ofScope rows) ++ lower, upper ++ after.flatMap (ofScope rows), ?_, ?_⟩
  · rw [select_of_ne_nil (by simp), List.flatMap_append, List.flatMap_cons, hsplit]
    simp
  · intro t ht
    rcases List.mem_append.1 ht with ht | ht
    · have hmem : t ∈ ofScope rows r.scope := by
        rw [hsplit]
        simp [ht]
      have hne : t ≠ r := by
        rintro rfl
        rw [hsplit] at hnodup
        simp [List.nodup_append, ht] at hnodup
      exact ⟨(mem_ofScope.1 hmem).1, hne, .inl (mem_ofScope.1 hmem).2⟩
    · obtain ⟨scope, hscope, hmem⟩ := List.mem_flatMap.1 ht
      obtain ⟨hrow, rfl⟩ := mem_ofScope.1 hmem
      refine ⟨hrow, ?_, .inr hscope⟩
      rintro rfl
      exact hafter hscope

/-- How the settings of a source depend on the rows that its table holds. -/
structure Reads (s : DatabaseSource) (w : World) (rows : List Row) : Prop where
  /-- The order in which rows are stored does not matter. -/
  order : ∀ w' rows', s.Stores w' rows' → rows'.Perm rows → s.load w' = s.load w
  /-- Nor do the rows of scopes that are not listed, if any are. -/
  frame : s.scopes ≠ [] → ∀ w' rows', s.Stores w' rows' →
    (listed s.scopes rows').Perm (listed s.scopes rows) → s.load w' = s.load w
  /-- What a row says is there if its path is not touched by the other rows of its scope and those of
      the scopes listed behind it. -/
  kept : ∀ tree, s.load w = .ok tree → ∀ before r after, s.scopes = before ++ r.scope :: after →
    r.scope ∉ after → r ∈ rows → r.path ≠ [] →
    (∀ t ∈ rows, t ≠ r → t.scope = r.scope ∨ t.scope ∈ after → t.path ≠ [] → ¬ t.Along r.path) →
    ∃ v, r.decode s.valueFormat s.table = .ok v ∧ Value.at? r.path (.map tree) = some v

/-- **The law of tables.** Settings depend on the rows of the listed scopes, not on how they are
    stored, and what a row says is only hidden by rows that are read after it. -/
theorem load_reads (hstores : s.Stores w rows) (hkeyed : Keyed rows) : s.Reads w rows where
  order w' rows' hstores' hperm :=
    load_congr hstores hstores' (keyed_inScope hkeyed s) (keyed_inScope (hkeyed.of_perm hperm) s)
      (hkeyed.select_eq hperm s.scopes)
  frame hscopes w' rows' hstores' hperm := by
    have hlisted : Keyed (listed s.scopes rows) := hkeyed.filter _
    have hkeyed' : Keyed (s.inScope rows') := by
      rw [inScope, if_neg hscopes]
      exact hlisted.of_perm hperm
    have hselect : select s.scopes rows' = select s.scopes rows := by
      rw [← select_listed hscopes rows', ← select_listed hscopes rows]
      exact hlisted.select_eq hperm s.scopes
    exact load_congr hstores hstores' (keyed_inScope hkeyed s) hkeyed' hselect
  kept tree hload before r after hscopes hafter hr hpath hapart := by
    have htree := treeOfRows_of_load hload hstores (keyed_inScope hkeyed s)
    obtain ⟨earlier, later, hselect, hlater⟩ := exists_select_eq hkeyed hr hafter before
    rw [hscopes, hselect] at htree
    refine at?_treeOfRows_of_last htree hpath fun t ht htpath => ?_
    obtain ⟨hrow, hne, hscope⟩ := hlater t ht
    exact hapart t hrow hne hscope htpath

/-- The rows of a table on a server are stored the other way round, and one of a scope that is not
    listed is gone. Its path would touch the one of the row of `prod`, as the one of the row of `base`
    does. -/
theorem load_reads_reversed :
    let r : Row := ⟨"prod", "db.host", some "x"⟩
    let base : Row := ⟨"base", "db", some "off"⟩
    let test : Row := ⟨"test", "db.host.name", some "y"⟩
    let held (rows : List Row) : World :=
      { servers := .holding "mysql://db.local/app" "settings" rows }
    let s : DatabaseSource := ⟨"mysql://db.local/app", "settings", ["base", "prod"], none⟩
    let w := held [test, base, r]
    s.Stores w [test, base, r] ∧ Keyed [test, base, r]
      ∧ s.load (held [r, base, test]) = s.load w ∧ s.load (held [r, base]) = s.load w
      ∧ ∃ tree, s.load w = .ok tree ∧ ∃ v, r.decode none "settings" = .ok v
        ∧ Value.at? r.path (.map tree) = some v := by
  intro r base test held s w
  have hdriver : s.checkedDriver = .ok .mySql := by decide +kernel
  have hheld : ∀ rows, s.Stores (held rows) rows := by
    intro rows
    refine ⟨fun hother => ?_, fun _ _ _ => Servers.holds_holding _ _ rows⟩
    cases Except.ok.inj (hother.symm.trans (ofDsn_of_checkedDriver hdriver))
  have hkeyed : Keyed [test, base, r] := by
    unfold Keyed
    decide +kernel
  have hreads := load_reads (hheld _) hkeyed
  have hselect : select s.scopes [test, base, r] = [base, r] := by cbv
  have htree : s.load w = .ok [("db", .map [("host", .text "x")])] := by
    rw [load_of_stores (hheld _) (keyed_inScope hkeyed s), hdriver, Except.ok_bind, hselect]
    decide +kernel
  refine ⟨hheld _, hkeyed, ?_, ?_, _, htree, ?_⟩
  · exact hreads.order _ _ (hheld _) (by decide +kernel)
  · exact hreads.frame (by simp [s]) _ _ (hheld [r, base]) (by decide +kernel)
  · refine hreads.kept _ htree ["base"] r [] rfl (by simp) (by simp) (by decide +kernel) ?_
    intro t ht hne hscope
    have hother : t = test ∨ t = base := by simpa [hne] using ht
    rcases hother with rfl | rfl <;> simp [test, base, r] at hscope

/-- A row without a path is touched by no other row of this table, and yet nothing is there of what it
    says. -/
theorem load_pathless :
    let r : Row := ⟨"base", ".", some "\x7b\"a\": 1\x7d"⟩
    let w : World :=
      { files := { nodes := [(["settings.db"], .database [("settings", [r])])] } }
    let s : DatabaseSource := ⟨"sqlite://settings.db", "settings", ["base"], some .json⟩
    s.Stores w [r] ∧ Keyed [r] ∧ (∀ t ∈ [r], t ≠ r → ¬ t.Along r.path)
      ∧ ∃ tree, s.load w = .ok tree
        ∧ ¬ ∃ v, r.decode s.valueFormat s.table = .ok v ∧ Value.at? r.path (.map tree) = some v := by
  intro r w s
  have hdriver : s.checkedDriver = .ok .sqlite := by decide +kernel
  have hstores : s.Stores w [r] := by
    refine ⟨fun _ => ⟨[("settings", [r])], by decide +kernel, by decide +kernel⟩, ?_⟩
    intro driver hother hne
    exact absurd (Except.ok.inj (hother.symm.trans (ofDsn_of_checkedDriver hdriver))) hne
  have hkeyed : Keyed [r] := by simp [Keyed]
  have hselect : select s.scopes [r] = [r] := by cbv
  refine ⟨hstores, hkeyed, by simp, [], ?_, ?_⟩
  · rw [load_of_stores hstores (keyed_inScope hkeyed s), hdriver, Except.ok_bind, hselect]
    decide +kernel
  · rintro ⟨v, hv, hat⟩
    have hdecode : r.decode s.valueFormat s.table = .ok (.map [("a", .ofInt 1)]) := by decide +kernel
    obtain rfl := Except.ok.inj (hdecode.symm.trans hv)
    have hpath : r.path = [] := by decide +kernel
    rw [hpath] at hat
    cases hat

end DatabaseSource

end LayeredSettings
