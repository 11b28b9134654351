import TextTables.Proofs.Store.Directory

/-!
# Calls of stores

The operations of a store, given one after another with whatever they are given.  Files
and memory answer all of them alike, in every state that such calls lead to, as long as
names can be names of files and lines can be lines of a file.
-/

namespace TextTables

namespace Store

/-- An operation of a store, with what it is given. -/
inductive Call where
  | read (database table : String)
  | write (database table : String) (lines : List String)
  | createTable (database table : String) (header : List String)
  | dropTable (database table : String)
  | createDatabase (database : String)
  | databaseExists (database : String)
  | dropDatabase (database : String)
  | tables (database : String)
deriving Repr, DecidableEq

/-- The answer to a call: lines that were read, how a change went, whether something is
there, or names. -/
inductive Answer where
  | lines (found : List String)
  | change (result : Except Fault Unit)
  | exists (found : Bool)
  | names (result : Except Fault (List String))
deriving DecidableEq

namespace Call

variable {σ : Type} [Store σ]

/-- The answer to a call, and the store after it. -/
def run (store : σ) : Call → Answer × σ
  | .read database table => (.lines (Store.read store database table), store)
  | .write database table lines => (Store.write store database table lines).map .change id
  | .createTable database table header =>
    (Store.createTable store database table header).map .change id
  | .dropTable database table => (Store.dropTable store database table).map .change id
  | .createDatabase database => (Store.createDatabase store database).map .change id
  | .databaseExists database => (.exists (Store.databaseExists store database), store)
  | .dropDatabase database => (Store.dropDatabase store database).map .change id
  | .tables database => (.names (Store.tables store database), store)

/-- The names of databases and tables in a call. -/
def names : Call → List String
  | .read database table | .write database table _ | .createTable database table _
  | .dropTable database table => [database, table]
  | .createDatabase database | .databaseExists database | .dropDatabase database
  | .tables database => [database]

/-- The lines that a call puts into a store. -/
def lines : Call → List String
  | .write _ _ lines => lines
  | .createTable _ _ header => [Row.toLine header]
  | _ => []

end Call

/-- The answers to calls one after another, and the store after all of them. -/
def callAll {σ : Type} [Store σ] (store : σ) : List Call → List Answer × σ
  | [] => ([], store)
  | call :: more =>
    let (answer, after) := call.run store
    let (answers, last) := callAll after more
    (answer :: answers, last)

/-- A call is answered alike where a store is kept if every operation is. -/
theorem ActsAlike.run {σ τ : Type} [Store σ] [Store τ] {f : σ → τ} {Fits : String → Prop}
    {store : σ} (hacts : ActsAlike f Fits store) (hreads : ReadsAlike f Fits store)
    {call : Call} (hnames : ∀ name ∈ call.names, Fits name) :
    call.run (f store) = (call.run store).map id f := by
  cases call
  all_goals simp only [Call.names, List.forall_mem_cons] at hnames
  case read database table =>
    rw [Call.run, hreads _ _ hnames.1 hnames.2.1]
    rfl
  case write database table lines =>
    rw [Call.run, hacts.write _ _ _ hnames.1 hnames.2.1]
    rfl
  case createTable database table header =>
    rw [Call.run, hacts.createTable _ _ _ hnames.1 hnames.2.1]
    rfl
  case dropTable database table =>
    rw [Call.run, hacts.dropTable _ _ hnames.1 hnames.2.1]
    rfl
  case createDatabase database =>
    rw [Call.run, hacts.createDatabase _ hnames.1]
    rfl
  case databaseExists database =>
    rw [Call.run, hacts.databaseExists _ hnames.1]
    rfl
  case dropDatabase database =>
    rw [Call.run, hacts.dropDatabase _ hnames.1]
    rfl
  case tables database =>
    rw [Call.run, hacts.tables _ hnames.1]
    rfl

end Store

open Store (Call callAll)

/-! ## What calls keep -/

namespace Catalog

/-- What a call puts into a catalog is of the kind that is kept there. -/
def Admits (Key : String → Prop) (Kept : String → List String → Prop) : Call → Prop
  | .write _ table lines => Kept (storedName table) lines
  | .createTable _ table header => Kept (storedName table) [Row.toLine header]
  | .createDatabase database => Key (storedName database)
  | _ => True

variable {Key : String → Prop} {Kept : String → List String → Prop} {c : Catalog}

theorem Every.run (h : c.Every Key Kept) {call : Call} (hcall : Admits Key Kept call) :
    (call.run c).2.Every Key Kept := by
  cases call with
  | read | databaseExists | tables => exact h
  | write => exact h.write hcall
  | createTable => exact h.createTable hcall
  | dropTable => exact h.dropTable _ _
  | createDatabase => exact h.createDatabase hcall
  | dropDatabase => exact h.dropDatabase _

theorem Every.callAll (h : c.Every Key Kept) {calls : List Call}
    (hcalls : ∀ call ∈ calls, Admits Key Kept call) :
    (callAll c calls).2.Every Key Kept := by
  induction calls generalizing c with
  | nil => exact h
  | cons call more ih =>
      have hmore : ∀ next ∈ more, Admits Key Kept next :=
        fun next hnext => hcalls next (List.mem_cons_of_mem _ hnext)
      exact ih (h.run (hcalls call List.mem_cons_self)) hmore

end Catalog

/-! ## Files and memory -/

/-- A name of ASCII letters, digits and underscores that is no longer than that of a file. -/
structure IsShortName (name : String) : Prop where
  isName : Token.isName name = true
  short : name.utf8ByteSize ≤ FilePath.longestName

instance (name : String) : Decidable (IsShortName name) :=
  decidable_of_iff (Token.isName name = true ∧ name.utf8ByteSize ≤ FilePath.longestName)
    ⟨fun h => ⟨h.1, h.2⟩, fun h => ⟨h.isName, h.short⟩⟩

theorem IsShortName.isEntryName {name : String} (h : IsShortName name) :
    FilePath.IsEntryName (storedName name) :=
  FilePath.isEntryName_storedName h.isName h.short

/-- A call with names of files and lines of files only. -/
structure Store.Call.IsPlain (call : Call) : Prop where
  names : ∀ name ∈ call.names, IsShortName name
  lines : ∀ line ∈ call.lines, Text.IsLine line

instance (call : Call) : Decidable call.IsPlain :=
  decidable_of_iff ((∀ name ∈ call.names, IsShortName name) ∧
    ∀ line ∈ call.lines, Text.IsLine line) ⟨fun h => ⟨h.1, h.2⟩, fun h => ⟨h.names, h.lines⟩⟩

/-- What can be kept in a file. -/
def FitsFile (name : String) (lines : List String) : Prop :=
  FilePath.IsEntryName name ∧ ∀ line ∈ lines, Text.IsLine line

theorem Store.Call.IsPlain.admits {call : Call} (h : call.IsPlain) :
    Catalog.Admits FilePath.IsEntryName FitsFile call := by
  cases call with
  | write database table lines =>
      exact ⟨(h.names table (by simp [Call.names])).isEntryName, h.lines⟩
  | createTable database table header =>
      exact ⟨(h.names table (by simp [Call.names])).isEntryName, h.lines⟩
  | createDatabase database => exact (h.names database (by simp [Call.names])).isEntryName
  | read | dropTable | databaseExists | dropDatabase | tables => trivial

namespace Root

open FilePath (IsEntryName)

variable {r : Root} {c : Catalog} {call : Call}

/-- Each call is answered in files as on the catalog, and leaves the files that keep what
it leaves. -/
theorem run_keep (hc : c.Every IsEntryName FitsFile) (hcall : call.IsPlain) :
    call.run (r.keep c) = (call.run c).map id r.keep := by
  have hacts : Store.ActsAlike r.keep IsShortName c :=
    actsAlike_keep (fun _ hname => hname.isEntryName) (hc.mono id fun hkept => hkept.1)
  have hreads : Store.ReadsAlike r.keep IsShortName c :=
    readsAlike_keep (fun _ hname => hname.isEntryName)
      fun key tables htables name lines hlines => (hc.table htables hlines).2
  exact hacts.run hreads hcall.names

theorem callAll_keep (hc : c.Every IsEntryName FitsFile) {calls : List Call}
    (hcalls : ∀ call ∈ calls, call.IsPlain) :
    callAll (r.keep c) calls = (callAll c calls).map id r.keep := by
  induction calls generalizing c with
  | nil => rfl
  | cons call more ih =>
      have hcall := hcalls call List.mem_cons_self
      have hmore : ∀ next ∈ more, next.IsPlain :=
        fun next hnext => hcalls next (List.mem_cons_of_mem _ hnext)
      simp only [callAll, run_keep hc hcall, Prod.map_fst, Prod.map_snd, id]
      rw [ih (hc.run hcall.admits) hmore]
      rfl

/-- **Files and memory are the same store.**  Calls one after another, on a root directory
without databases and on an empty catalog, with names of at most 255 ASCII letters, digits
and underscores and with lines that are lines of a file, get the same answers: the same
values, and the same faults.  So they do wherever the root directory stands. -/
theorem answers_callAll_eq (r : Root) {calls : List Call}
    (h : ∀ call ∈ calls, call.IsPlain) :
    (callAll r.directory calls).1 = (callAll Catalog.empty calls).1 := by
  rw [← keep_empty, callAll_keep Catalog.every_empty h]
  rfl

/-- Names in any case, a line without text, and two calls that are refused. -/
theorem answers_callAll_eq_school :
    let calls : List Call := [.createDatabase "School", .createTable "SCHOOL" "Marks" ["id", "x"],
      .write "school" "MARKS" ["id\tx", "", "1\tBob"], .tables "school", .read "School" "marks",
      .createDatabase "school", .createTable "none" "marks" ["id"]]
    (∀ call ∈ calls, call.IsPlain) ∧
      (callAll top.directory calls).1 = (callAll Catalog.empty calls).1 ∧
      (callAll Catalog.empty calls).1 = [.change (.ok ()), .change (.ok ()), .change (.ok ()),
        .names (.ok ["marks"]), .lines ["id\tx", "", "1\tBob"],
        .change (.error (.databaseExists "school")),
        .change (.error (.databaseMissing "none"))] := by
  intro calls
  have hplain : ∀ call ∈ calls, call.IsPlain := by decide +kernel
  exact ⟨hplain, answers_callAll_eq top hplain, by decide +kernel⟩

end Root

end TextTables
