import Mathlib.Data.List.Basic

/-!
# Tables with named columns

A table is written row by row: its cells are separated, and every row is
terminated.  What was written is read back, and when the first row holds the
names of the columns, a column is found by its name.
-/

namespace Llgw.Foundation.Tables

universe u v w

variable {Symbol : Type u} [DecidableEq Symbol] {separator terminator : Symbol}

/-- The cells of a row as they are written, without the end of the row. -/
def joinCells (separator : Symbol) (row : List (List Symbol)) :
    List Symbol :=
  [separator].intercalate row

/-- Rows as they are written. -/
def writeTable (separator terminator : Symbol)
    (rows : List (List (List Symbol))) : List Symbol :=
  rows.flatMap fun row => joinCells separator row ++ [terminator]

/-- The rows of what was written. -/
def readTable (separator terminator : Symbol) (content : List Symbol) :
    List (List (List Symbol)) :=
  (content.splitOn terminator).dropLast.map (List.splitOn separator)

/-- A row that can be told apart from others when it is written. -/
structure Plain (separator terminator : Symbol)
    (row : List (List Symbol)) : Prop where
  filled : row ≠ []
  cells : ∀ cell ∈ row, separator ∉ cell ∧ terminator ∉ cell

namespace Plain

variable {row : List (List Symbol)}
  (plain : Plain separator terminator row)
include plain

omit [DecidableEq Symbol] in
/-- No end of a row is written inside of it. -/
theorem terminator_not_mem (different : separator ≠ terminator) :
    terminator ∉ joinCells separator row := by
  have cells := plain.cells
  clear plain
  induction row with
  | nil => exact List.not_mem_nil
  | cons cell rest induction =>
      rw [List.forall_mem_cons] at cells
      cases rest with
      | nil =>
          rw [joinCells, List.intercalate_singleton]
          exact cells.1.2
      | cons next rest =>
          have later := induction cells.2
          rw [joinCells, List.intercalate_cons_cons, ← joinCells]
          simp [cells.1.2, later, different.symm]

theorem splitOn_joinCells : (joinCells separator row).splitOn separator = row :=
  List.splitOn_intercalate separator
    (fun cell member => (plain.cells cell member).1) plain.filled

end Plain

/-- A table that was written is read back. -/
theorem readTable_writeTable (different : separator ≠ terminator)
    {rows : List (List (List Symbol))}
    (plain : ∀ row ∈ rows, Plain separator terminator row) :
    readTable separator terminator (writeTable separator terminator rows) =
      rows := by
  induction rows with
  | nil => rfl
  | cons row rows induction =>
      rw [List.forall_mem_cons] at plain
      have later := induction plain.2
      rw [readTable] at later
      have first := plain.1.terminator_not_mem different
      have cells := plain.1.splitOn_joinCells
      rw [writeTable, List.flatMap_cons, List.append_assoc,
        List.singleton_append, ← writeTable, readTable,
        List.splitOn_append_cons_self_of_not_mem first,
        List.dropLast_cons_of_ne_nil (List.splitOn_ne_nil _ _),
        List.map_cons, cells, later]

/-! ## Columns -/

/-- The cells of the column with this name, below a row of names. -/
def readColumn (name : List Symbol) :
    List (List (List Symbol)) → Option (List (List Symbol))
  | [] => none
  | header :: rows => rows.mapM fun row => (header.zip row).lookup name

section Columns

variable {Column : Type v} {Record : Type w}
  {columns : List Column} {name : Column → List Symbol}

/-- A name finds the cell of its own column. -/
theorem lookup_zip (distinct : (columns.map name).Nodup)
    (cell : Column → List Symbol) {column : Column}
    (member : column ∈ columns) :
    ((columns.map name).zip (columns.map cell)).lookup (name column) =
      some (cell column) := by
  induction columns with
  | nil => contradiction
  | cons first columns induction =>
      rw [List.map_cons, List.nodup_cons] at distinct
      rw [List.map_cons, List.map_cons, List.zip_cons_cons]
      rcases List.mem_cons.mp member with rfl | later
      · exact List.lookup_cons_self
      · have other : name column ≠ name first := by
          intro same
          rw [← same] at distinct
          exact distinct.1 (List.mem_map_of_mem later)
        rw [List.lookup_cons, beq_false_of_ne other]
        exact induction distinct.2 later

/-- The column with a name holds its cell of every record, in order. -/
theorem readColumn_of_records (distinct : (columns.map name).Nodup)
    (cell : Column → Record → List Symbol) (records : List Record)
    {column : Column} (member : column ∈ columns) :
    readColumn (name column)
        (columns.map name ::
          records.map fun record => columns.map fun other =>
            cell other record) =
      some (records.map (cell column)) := by
  rw [readColumn]
  induction records with
  | nil => rfl
  | cons record records induction =>
      have found :=
        lookup_zip distinct (fun other => cell other record) member
      rw [List.map_cons, List.mapM_cons, found, induction]
      rfl

end Columns

end Llgw.Foundation.Tables
