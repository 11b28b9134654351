import TextTables.Proofs.Attempt
import TextTables.Proofs.Fault
import TextTables.Table.Change

/-!
# Where the cells come from

Changes of a table put values, ids and `NULL` into its cells, and queries put cells into
other rows.  None of them makes up a character: one that is foreign to names and numbers and
is neither in the cells of a table nor in the values is not in the cells afterwards, and a
refusal does not repeat it.
-/

namespace TextTables

open Text (FreeOf Foreign)

variable {c : Char}

/-! ## Rows -/

namespace Row

/-- No cell holds the character. -/
def Avoids (c : Char) (cells : List String) : Prop :=
  ∀ cell ∈ cells, FreeOf c cell

variable {cells : List String}

theorem Avoids.cellAt (hc : Foreign c) (h : Avoids c cells) (place : Nat) :
    FreeOf c (cellAt cells place) := by
  unfold Row.cellAt
  cases hcell : cells[place]? with
  | none => exact hc.freeOf_null
  | some cell => exact h cell (List.mem_of_getElem? hcell)

theorem Avoids.project (hc : Foreign c) (h : Avoids c cells) (places : List Nat) :
    Avoids c (Row.project places cells) := by
  intro cell hcell
  obtain ⟨place, _, rfl⟩ := List.mem_map.mp hcell
  exact h.cellAt hc place

theorem Avoids.append {more : List String} (h : Avoids c cells) (hmore : Avoids c more) :
    Avoids c (cells ++ more) :=
  List.forall_mem_append.mpr ⟨h, hmore⟩

theorem Avoids.cons {cell : String} (h : Avoids c cells) (hcell : FreeOf c cell) :
    Avoids c (cell :: cells) :=
  List.forall_mem_cons.mpr ⟨hcell, h⟩

theorem avoids_singleton {cell : String} (hcell : FreeOf c cell) : Avoids c [cell] :=
  Avoids.cons (List.forall_mem_nil _) hcell

theorem Avoids.eraseIdx (h : Avoids c cells) (place : Nat) : Avoids c (cells.eraseIdx place) :=
  fun cell hcell => h cell (List.mem_of_mem_eraseIdx hcell)

theorem Avoids.pad (hc : Foreign c) (h : Avoids c cells) (width : Nat) :
    Avoids c (pad width cells) := by
  refine h.append fun cell hcell => ?_
  rw [List.eq_of_mem_replicate hcell]
  exact hc.freeOf_null

theorem mem_or_mem_of_mem_assign {values : List (Nat × String)} {cells : List String}
    {cell : String} (h : cell ∈ assign values cells) :
    cell ∈ cells ∨ ∃ value ∈ values, cell = value.2 := by
  induction values generalizing cells with
  | nil => exact Or.inl h
  | cons first rest ih =>
      rw [assign, List.foldl_cons] at h
      rcases ih h with hcell | ⟨value, hvalue, heq⟩
      · rcases List.mem_or_eq_of_mem_set hcell with hcell | heq
        · exact Or.inl hcell
        · exact Or.inr ⟨first, List.mem_cons_self, heq⟩
      · exact Or.inr ⟨value, List.mem_cons_of_mem _ hvalue, heq⟩

theorem Avoids.assign {values : List (Nat × String)} (h : Avoids c cells)
    (hvalues : ∀ value ∈ values, FreeOf c value.2) : Avoids c (assign values cells) := by
  intro cell hcell
  rcases mem_or_mem_of_mem_assign hcell with hcell | ⟨value, hvalue, rfl⟩
  · exact h cell hcell
  · exact hvalues value hvalue

theorem Avoids.map_stripQuotes {values : List String} (h : Avoids c values) :
    Avoids c (values.map Token.stripQuotes) := by
  intro cell hcell
  obtain ⟨value, hvalue, rfl⟩ := List.mem_map.mp hcell
  exact Token.freeOf_stripQuotes (h value hvalue)

end Row

namespace Table

/-- No heading holds a foreign character, and no cell of a row holds this one. -/
structure Avoids (c : Char) (t : Table) : Prop where
  header : ∀ d, Foreign d → Row.Avoids d t.header
  rows : ∀ row ∈ t.rows, Row.Avoids c row

variable {t : Table}

theorem avoids_mk_nil {header : List String} (h : ∀ d, Foreign d → Row.Avoids d header) :
    Avoids c ⟨header, []⟩ :=
  ⟨h, List.forall_mem_nil _⟩

/-! ## Changes -/

theorem Avoids.mapRows (h : t.Avoids c) {header : List String} {f : List String → List String}
    (hheader : ∀ d, Foreign d → Row.Avoids d header)
    (hf : ∀ row ∈ t.rows, Row.Avoids c row → Row.Avoids c (f row)) :
    Avoids c ⟨header, t.rows.map f⟩ := by
  refine ⟨hheader, fun row hrow => ?_⟩
  obtain ⟨old, hold, rfl⟩ := List.mem_map.mp hrow
  exact hf old hold (h.rows old hold)

theorem Avoids.insert (hc : Foreign c) (h : t.Avoids c) {values : List String}
    (hvalues : Row.Avoids c values) :
    Satisfies (Fault.Avoids c) (Avoids c) (t.insert values) := by
  unfold Table.insert
  dsimp only
  split
  · exact .error (Fault.avoids_of_words_eq_nil nofun rfl)
  split
  · exact .error (Fault.avoids_of_words_eq_nil nofun rfl)
  · next id _ =>
      refine .ok ⟨h.header, List.forall_mem_append.mpr ⟨h.rows, ?_⟩⟩
      intro row hrow
      rw [List.mem_singleton.mp hrow]
      exact hvalues.map_stripQuotes.cons (hc.freeOf_toText id)

theorem satisfies_targets (t : Table) {assignments : List (String × String)}
    (hassignments : ∀ assignment ∈ assignments, FreeOf c assignment.2) :
    Satisfies (Fault.Avoids c) (fun targets => ∀ target ∈ targets, FreeOf c target.2)
      (t.targets assignments) := by
  refine Satisfies.mapM fun assignment hassignment => ?_
  obtain ⟨column, value⟩ := assignment
  dsimp only
  split
  · exact .ok (Token.freeOf_stripQuotes (hassignments _ hassignment))
  · exact .error (Fault.avoids_of_words_eq_nil nofun rfl)

theorem Avoids.update (hc : Foreign c) (h : t.Avoids c) {assignments : List (String × String)}
    (hassignments : ∀ assignment ∈ assignments, FreeOf c assignment.2)
    (condition : Option Condition) :
    Satisfies (Fault.Avoids c) (Avoids c) (t.update assignments condition) := by
  refine (t.satisfies_targets hassignments).bind fun targets htargets => .ok ?_
  refine h.mapRows h.header fun row _ hrow => ?_
  split
  · exact (hrow.pad hc t.width).assign htargets
  · exact hrow

theorem Avoids.delete (h : t.Avoids c) (condition : Option Condition) :
    (t.delete condition).Avoids c := by
  cases condition with
  | none => exact h
  | some condition => exact ⟨h.header, fun row hrow => h.rows row (List.mem_filter.mp hrow).1⟩

theorem Avoids.padded (hc : Foreign c) (h : t.Avoids c) : t.padded.Avoids c :=
  h.mapRows h.header fun _ _ hrow => hrow.pad hc t.width

theorem Avoids.alter (hc : Foreign c) (h : t.Avoids c) {column : String}
    (hcolumn : Token.isName column = true) (change : Alteration) :
    Satisfies (Fault.Avoids c) (Avoids c) (t.alter change column) := by
  have hquote := hc.freeOf_of_isName hcolumn
  unfold Table.alter
  split
  · exact .error (Fault.avoids_of_words_eq_nil nofun rfl)
  split
  · exact .error (Fault.avoids_of_words_eq_singleton nofun rfl hquote)
  · refine .ok (Avoids.padded hc (h.mapRows ?_ ?_))
    · exact fun d hd => (h.header d hd).append (Row.avoids_singleton (hd.freeOf_of_isName hcolumn))
    · exact fun row _ hrow => hrow.append (Row.avoids_singleton hc.freeOf_null)
  · exact .error (Fault.avoids_of_words_eq_singleton nofun rfl hquote)
  · refine .ok (Avoids.padded hc (h.mapRows ?_ ?_))
    · exact fun d hd => (h.header d hd).eraseIdx _
    · exact fun row _ hrow => hrow.eraseIdx _

/-- What is said of a heading that comes twice is its own text. -/
theorem satisfies_headerOf {values : List String} (hvalues : Row.Avoids c values) :
    Satisfies (Fault.Avoids c) (fun _ => True) (headerOf values) := by
  have hgo : ∀ (names taken : List String), Row.Avoids c names →
      Satisfies (Fault.Avoids c) (fun _ => True) (headerOf.go taken names) := by
    intro names taken hnames
    induction names generalizing taken with
    | nil => exact .ok trivial
    | cons name rest ih =>
        obtain ⟨hname, hrest⟩ := List.forall_mem_cons.mp hnames
        rw [headerOf.go]
        split
        · exact ih taken hrest
        split
        · exact .error (Fault.avoids_of_words_eq_singleton nofun rfl hname)
        · exact ih (name :: taken) hrest
  exact hgo _ _ hvalues.map_stripQuotes

/-! ## Queries -/

theorem satisfies_places (t : Table) {columns : Selection}
    (hcolumns : ∀ names, columns = .columns names → Row.Avoids c names) :
    Satisfies (Fault.Avoids c) (fun _ => True) (t.places columns) := by
  cases columns with
  | all => exact .ok trivial
  | columns names =>
      have hnames := hcolumns names rfl
      refine (Satisfies.mapM (R := fun _ => True) fun name hname => ?_).mono fun _ _ => trivial
      split
      · exact .ok trivial
      · exact .error (Fault.avoids_of_words_eq_singleton nofun rfl (hnames name hname))

theorem Avoids.select (hc : Foreign c) (h : t.Avoids c) {columns : Selection}
    (hcolumns : ∀ names, columns = .columns names → Row.Avoids c names)
    (condition : Option Condition) :
    Satisfies (Fault.Avoids c) (Avoids c) (t.select columns condition) := by
  refine (t.satisfies_places hcolumns).bind fun places _ => .ok ⟨?_, ?_⟩
  · exact fun d hd => (h.header d hd).project hd places
  · intro row hrow
    obtain ⟨old, hold, rfl⟩ := List.mem_map.mp hrow
    exact (h.rows old (List.mem_filter.mp hold).1).project hc places

theorem avoids_qualified {d : Char} (hd : Foreign d) (hheader : Row.Avoids d t.header)
    {name : String} (hname : Token.isName name = true) (places : List Nat) :
    Row.Avoids d (t.qualified name places) := by
  intro heading hheading
  obtain ⟨cell, hcell, rfl⟩ := List.mem_map.mp hheading
  have hdot : FreeOf d "." := Text.freeOf_ofList (by simpa using hd.not_dot)
  have hcell := hheader.project hd places cell hcell
  exact Text.freeOf_append.mpr
    ⟨Text.freeOf_append.mpr ⟨hd.freeOf_of_isName hname, hdot⟩, hcell⟩

theorem avoids_joinRows (hc : Foreign c) {leftKey rightKey : Nat}
    {leftPlaces rightPlaces : List Nat} {left right row : List String}
    (hleft : Row.Avoids c left) (hright : Row.Avoids c right)
    (h : joinRows leftKey rightKey leftPlaces rightPlaces left right = some row) :
    Row.Avoids c row := by
  unfold joinRows at h
  split at h
  · split at h
    · cases h
      refine Row.Avoids.append ?_ (hright.project hc rightPlaces)
      exact (hleft.project hc leftPlaces).cons (hleft.cellAt hc 0)
    · cases h
  · cases h

theorem Avoids.join (hc : Foreign c) {left right : Table} (hleft : left.Avoids c)
    (hright : right.Avoids c) {leftName rightName : String}
    (hleftName : Token.isName leftName = true) (hrightName : Token.isName rightName = true)
    (leftColumn rightColumn : String) :
    Satisfies (Fault.Avoids c) (Avoids c)
      (left.join right leftName rightName leftColumn rightColumn) := by
  unfold Table.join
  split
  · refine .ok ⟨?_, ?_⟩
    · intro d hd
      refine Row.Avoids.append ?_ (avoids_qualified hd (hright.header d hd) hrightName _)
      refine Row.Avoids.cons (avoids_qualified hd (hleft.header d hd) hleftName _) ?_
      exact hd.freeOf_of_isName (by decide)
    · intro row hrow
      obtain ⟨leftRow, hleftRow, hrow⟩ := List.mem_flatMap.mp hrow
      obtain ⟨rightRow, hrightRow, hrow⟩ := List.mem_filterMap.mp hrow
      exact avoids_joinRows hc (hleft.rows leftRow hleftRow) (hright.rows rightRow hrightRow) hrow
  · exact .error (Fault.avoids_of_words_eq_nil nofun rfl)

end Table

end TextTables
