import Reroute.Config.Compile
import Reroute.Proofs.Table
import Reroute.Proofs.Template.Nesting

/-!
# The lookup tables of a document

The tables of a document are compiled if and only if their names may stand side by side: none is empty or has a colon,
and no two of them differ in the case of ASCII letters only (`MapBlock.WellNamed`).  Then there is one table for each
block, in order (`compileTables_eq_ok_iff`), found under its name in any case.  In a template, the name in front of a
colon leads to the table, unless it means something else there (`MapBlock.Callable`, `Names.compile_lookup`).  A table
gives what the last entry of a key says, where keys are compared in small letters (`LookupTable.lookup_ofEntries`).
-/

namespace Reroute

/-! ### Entries -/

private theorem sortedByName_perm (entries : List (String × String)) : (sortedByName entries).Perm entries :=
  List.mergeSort_perm entries _

private theorem pairwise_sortedByName (entries : List (String × String)) :
    (sortedByName entries).Pairwise fun a b => a.1 ≤ b.1 := by
  have hpairwise : (sortedByName entries).Pairwise fun a b => decide (a.1 ≤ b.1) = true := by
    refine List.pairwise_mergeSort ?_ ?_ entries
    · intro a b c hab hbc
      rw [decide_eq_true_eq] at hab hbc ⊢
      exact String.le_trans hab hbc
    · intro a b
      simpa using String.le_total a.1 b.1
  exact hpairwise.imp of_decide_eq_true

namespace LookupTable

private theorem writes_enter (key value : String) : Table.Writes (enter key value) key fun _ => value :=
  ⟨rfl, fun _ _ _ => rfl⟩

private theorem lookup_eq (table : LookupTable) (key : String) :
    table.lookup key = (Table.find? (Text.lower key) table.entries).getD table.fallback := by
  unfold lookup Table.find?
  split
  · rename_i entry hentry
    rw [hentry]
    rfl
  · rename_i hnone
    rw [hnone]
    rfl

private theorem lookup_insert (table : LookupTable) (known value key : String) :
    (table.insert known value).lookup key =
      if Text.lower known = Text.lower key then value else table.lookup key := by
  rw [lookup_eq, insert, (writes_enter _ value).find?, lookup_eq]
  split <;> rfl

private theorem ofEntries_concat (name : String) (fallback : Option String) (entries : List (String × String))
    (entry : String × String) :
    ofEntries name fallback (entries ++ [entry]) = (ofEntries name fallback entries).insert entry.1 entry.2 :=
  List.foldl_concat ..

private theorem name_ofEntries (name : String) (fallback : Option String) (entries : List (String × String)) :
    (ofEntries name fallback entries).name = name := by
  induction entries using List.reverseRecOn with
  | nil => rfl
  | append_singleton entries entry ih =>
    rw [ofEntries_concat]
    exact ih

/-- Under a key stands what the last of its entries says, or else the default. -/
theorem lookup_ofEntries (name : String) (fallback : Option String) (entries : List (String × String))
    (key : String) :
    (ofEntries name fallback entries).lookup key =
      ((entries.filter fun entry => Text.lower entry.1 = Text.lower key).getLast?.map (·.2)).getD
        (fallback.getD "") := by
  induction entries using List.reverseRecOn with
  | nil => rfl
  | append_singleton entries entry ih =>
    rw [ofEntries_concat, lookup_insert, List.filter_append, ih]
    by_cases hentry : Text.lower entry.1 = Text.lower key
    · simp [hentry]
    · simp [hentry]

end LookupTable

/-! ### The names of tables -/

namespace MapBlock

/-- The name of a table in small letters. -/
def key (block : MapBlock) : String := Text.lowerAscii block.tableName

/-- The table of a block, whatever other tables there are. -/
def lookupTable (block : MapBlock) : LookupTable :=
  .ofEntries block.tableName block.fallback (sortedByName block.entries)

/-- The names of tables that may stand side by side. -/
structure WellNamed (blocks : List MapBlock) : Prop where
  named : ∀ block ∈ blocks, block.tableName ≠ ""
  noColon : ∀ block ∈ blocks, ':' ∉ block.tableName.toList
  apart : (blocks.map key).Nodup

private theorem wellNamed_nil : WellNamed [] := ⟨nofun, nofun, .nil⟩

private theorem wellNamed_cons {block : MapBlock} {blocks : List MapBlock} :
    WellNamed (block :: blocks) ↔
      block.tableName ≠ "" ∧ ':' ∉ block.tableName.toList ∧ (∀ other ∈ blocks, other.key ≠ block.key) ∧
        WellNamed blocks := by
  constructor
  · rintro ⟨hnamed, hcolon, hapart⟩
    obtain ⟨hname, hnamed⟩ := List.forall_mem_cons.mp hnamed
    obtain ⟨hplain, hcolon⟩ := List.forall_mem_cons.mp hcolon
    obtain ⟨hnew, hapart⟩ := List.nodup_cons.mp hapart
    exact ⟨hname, hplain, fun other hother heq => hnew (List.mem_map.mpr ⟨other, hother, heq⟩), hnamed, hcolon, hapart⟩
  · rintro ⟨hname, hplain, hnew, hnamed, hcolon, hapart⟩
    refine ⟨List.forall_mem_cons.mpr ⟨hname, hnamed⟩, List.forall_mem_cons.mpr ⟨hplain, hcolon⟩,
      List.nodup_cons.mpr ⟨?_, hapart⟩⟩
    intro hmem
    obtain ⟨other, hother, heq⟩ := List.mem_map.mp hmem
    exact hnew other hother heq

private theorem table_eq_ok_iff {block : MapBlock} {place : Place} {taken : List String} {table : LookupTable} :
    block.table place taken = .ok table ↔
      block.tableName ≠ "" ∧ ':' ∉ block.tableName.toList ∧ block.key ∉ taken ∧ table = block.lookupTable := by
  unfold MapBlock.table
  dsimp only
  by_cases hname : block.tableName = ""
  · simp [hname]
  by_cases hcolon : ':' ∈ block.tableName.toList
  · simp [hname, hcolon]
  by_cases htaken : block.key ∈ taken
  · have htaken' : Text.lowerAscii block.tableName ∈ taken := htaken
    simp [hname, hcolon, htaken, htaken']
  · have htaken' : Text.lowerAscii block.tableName ∉ taken := htaken
    simp [hname, hcolon, htaken, htaken', lookupTable, eq_comm]

end MapBlock

/-- The first block adds its table, and the others theirs behind it. -/
private theorem result_compileTables_cons {block : MapBlock} {blocks : List MapBlock} {place : Place} {index : Nat}
    {tables compiled : List (String × LookupTable)} :
    (compileTables place index tables (block :: blocks)).result = .ok compiled ↔
      (block.tableName ≠ "" ∧ ':' ∉ block.tableName.toList ∧ block.key ∉ tables.map Prod.fst) ∧
        (compileTables place (index + 1) (tables ++ [(block.key, block.lookupTable)]) blocks).result =
          .ok compiled := by
  have hname : Text.lowerAscii block.lookupTable.name = block.key := by
    rw [MapBlock.lookupTable, LookupTable.name_ofEntries, MapBlock.key]
  rw [compileTables, Logged.result_bind, Logged.result_ofExcept, Except.bind_eq_ok]
  simp only [MapBlock.table_eq_ok_iff, Logged.result_bind, Logged.result_report]
  constructor
  · rintro ⟨table, ⟨hnamed, hcolon, hnew, rfl⟩, hrest⟩
    rw [hname] at hrest
    exact ⟨⟨hnamed, hcolon, hnew⟩, hrest⟩
  · rintro ⟨⟨hnamed, hcolon, hnew⟩, hrest⟩
    rw [← hname] at hrest
    exact ⟨block.lookupTable, ⟨hnamed, hcolon, hnew, rfl⟩, hrest⟩

/-- Blocks behind tables that are there compile if and only if their names may stand side by side with one another and
with those of the tables. -/
private theorem result_compileTables_iff {blocks : List MapBlock} {place : Place} {index : Nat}
    {tables compiled : List (String × LookupTable)} :
    (compileTables place index tables blocks).result = .ok compiled ↔
      MapBlock.WellNamed blocks ∧ (∀ block ∈ blocks, block.key ∉ tables.map Prod.fst) ∧
        compiled = tables ++ blocks.map fun block => (block.key, block.lookupTable) := by
  induction blocks generalizing index tables with
  | nil =>
    rw [compileTables, Logged.result_pure, List.map_nil, List.append_nil]
    constructor
    · rintro ⟨⟩
      exact ⟨MapBlock.wellNamed_nil, nofun, rfl⟩
    · rintro ⟨-, -, rfl⟩
      rfl
  | cons block blocks ih =>
    rw [result_compileTables_cons, ih, MapBlock.wellNamed_cons, List.forall_mem_cons]
    have hbehind : ∀ other : MapBlock, other.key ∉ (tables ++ [(block.key, block.lookupTable)]).map Prod.fst ↔
        other.key ∉ tables.map Prod.fst ∧ other.key ≠ block.key := by
      intro other
      rw [List.map_append, List.mem_append, not_or, List.map_singleton, List.mem_singleton]
    simp only [hbehind, List.map_cons, List.append_assoc, List.singleton_append]
    constructor
    · rintro ⟨⟨hnamed, hcolon, hnew⟩, hblocks, hothers, heq⟩
      exact ⟨⟨hnamed, hcolon, fun other hother => (hothers other hother).2, hblocks⟩,
        ⟨hnew, fun other hother => (hothers other hother).1⟩, heq⟩
    · rintro ⟨⟨hnamed, hcolon, hapart, hblocks⟩, ⟨hnew, hothers⟩, heq⟩
      exact ⟨⟨hnamed, hcolon, hnew⟩, hblocks, fun other hother => ⟨hothers other hother, hapart other hother⟩, heq⟩

/-- The tables of a document are those of its blocks in order, where their names may stand side by side. -/
theorem compileTables_eq_ok_iff {blocks : List MapBlock} {place : Place} {tables : List (String × LookupTable)} :
    (compileTables place 0 [] blocks).result = .ok tables ↔
      MapBlock.WellNamed blocks ∧ tables = blocks.map fun block => (block.key, block.lookupTable) := by
  rw [result_compileTables_iff]
  simp

/-- Every block has its table under its name. -/
private theorem MapBlock.WellNamed.find? {blocks : List MapBlock} (h : WellNamed blocks) {block : MapBlock}
    (hblock : block ∈ blocks) :
    Table.find? block.key (blocks.map fun block => (block.key, block.lookupTable)) = some block.lookupTable := by
  have hnodup : ((blocks.map fun block => (block.key, block.lookupTable)).map Prod.fst).Nodup := by
    rw [List.map_map]
    exact h.apart
  have hmem : (block.key, block.lookupTable) ∈ blocks.map fun block => (block.key, block.lookupTable) :=
    List.mem_map.mpr ⟨block, hblock, rfl⟩
  simpa only using Table.find?_of_mem hnodup hmem

private theorem RuleSet.table?_eq (rules : RuleSet) (name : String) :
    rules.table? name = Table.find? (Text.lowerAscii name) rules.tables :=
  rfl

/-- A document that compiles has the tables of all of its blocks. -/
theorem Document.tables_of_compile {document : Document} {file : String} {registry : Registry} {rules : RuleSet}
    (h : (document.compile file registry).result = .ok rules) :
    MapBlock.WellNamed document.maps ∧
      rules.tables = document.maps.map fun block => (block.key, block.lookupTable) := by
  unfold compile at h
  obtain ⟨tables, htables, h⟩ := Except.bind_eq_ok.mp (Logged.result_bind _ _ ▸ h)
  obtain ⟨hnames, rfl⟩ := compileTables_eq_ok_iff.mp htables
  refine ⟨hnames, ?_⟩
  split at h
  · cases h
  · obtain ⟨compiled, -, h⟩ := Except.bind_eq_ok.mp (Logged.result_bind _ _ ▸ h)
    cases h
    rfl

/-! ### Tables in templates -/

/-- The name of a table that means nothing else in front of a colon: no operation that is built in, no group, and no
part of a template in braces. -/
structure MapBlock.Callable (block : MapBlock) : Prop where
  notBuiltin : Operation.builtin? block.tableName = none
  notGroup : ∀ key : CaptureKey, Text.lowerAscii block.tableName ≠ Text.lowerAscii key.name
  noOpening : '\x7b' ∉ block.tableName.toList
  noClosing : '\x7d' ∉ block.tableName.toList

namespace Names

open Template

private theorem builtin?_congr {name other : String} (h : Text.lowerAscii name = Text.lowerAscii other) :
    Operation.builtin? name = Operation.builtin? other := by
  unfold Operation.builtin?
  rw [h]

private theorem operation_of_table {names : Names} {name : String} {table : LookupTable}
    (hbuiltin : Operation.builtin? name = none)
    (htable : Table.find? (Text.lowerAscii name) names.tables = some table) :
    names.operation name = .ok (.table table) := by
  obtain ⟨entry, hentry, rfl⟩ := Option.map_eq_some_iff.mp htable
  exact resolves_iff.mpr (.table hbuiltin hentry)

/-- The name of a table in any case, a colon and a template in braces look up what the template gives. -/
theorem compile_lookup {names : Names} {block : MapBlock} {table : LookupTable}
    (htable : Table.find? block.key names.tables = some table) (hcallable : block.Callable)
    (hcolon : ':' ∉ block.tableName.toList) {name input : String}
    (hname : Text.lowerAscii name = Text.lowerAscii block.tableName) (hinput : Balanced input.toList)
    (hdepth : nestingDepth input.toList < maxNesting) :
    names.compile ("\x7b" ++ name ++ ":" ++ input ++ "\x7d") =
      (names.compile input).map (·.withOperation (.table table)) := by
  have hstands {c : Char} (hsmall : c.isLower = false) (hlow : c.toLower = c) (hc : c ∉ block.tableName.toList) :
      c ∉ name.toList :=
    fun hmem => hc (Text.mem_of_lowerAscii_eq hsmall hlow hname hmem)
  -- the name of a table is trimmed when it is declared, so trimming takes nothing off it in a template
  have htrim : Text.lowerAscii (Text.trim name) = Text.lowerAscii block.tableName := by
    rw [Text.lowerAscii_trim, hname, ← Text.lowerAscii_trim, MapBlock.tableName, Text.trim_trim]
  have hbuiltin : Operation.builtin? (Text.trim name) = none := (builtin?_congr htrim).trans hcallable.notBuiltin
  have htable : Table.find? (Text.lowerAscii (Text.trim name)) names.tables = some table := by
    rw [htrim, ← MapBlock.key]
    exact htable
  have hgroup : ∀ key : CaptureKey, Text.lowerAscii (Text.trim name) ≠ Text.lowerAscii key.name := by
    rw [htrim]
    exact hcallable.notGroup
  rw [compile_operation names (hstands (by decide) (by decide) hcolon)
    (hstands (by decide) (by decide) hcallable.noOpening) (hstands (by decide) (by decide) hcallable.noClosing)
    hgroup hinput hdepth, operation_of_table hbuiltin htable]
  rfl

end Names

/-! ### Complete and within reach -/

/-- A table among others holds what a block says, and it is found wherever its name is written. -/
structure MapBlock.Reached (block : MapBlock) (tables : List (String × LookupTable)) (table : LookupTable) : Prop where
  name : table.name = block.tableName
  found (root : RuleList) (name : String) (hname : Text.lowerAscii name = Text.lowerAscii block.tableName) :
    (RuleSet.mk root tables).table? name = some table
  /-- A template between braces is one level deeper than alone. -/
  called (hcallable : block.Callable) (registry : Registry) (name input : String) (value : Value)
      (hname : Text.lowerAscii name = Text.lowerAscii block.tableName) (hinput : Template.Balanced input.toList)
      (hdepth : Template.nestingDepth input.toList + 1 ≤ Template.maxNesting)
      (hvalue : (Names.mk tables registry).compile input = .ok value) :
    ∃ lookup, (Names.mk tables registry).compile ("\x7b" ++ name ++ ":" ++ input ++ "\x7d") = .ok lookup ∧
      ∀ (request : Request) (scratch : Scratch),
        lookup.read request scratch = table.lookup (value.read request scratch)
  ordered : (sortedByName block.entries).Perm block.entries ∧
    (sortedByName block.entries).Pairwise fun a b => a.1 ≤ b.1
  lookup (key : String) :
    table.lookup key =
      (((sortedByName block.entries).filter fun entry => Text.lower entry.1 = Text.lower key).getLast?.map (·.2)).getD
        (block.fallback.getD "")

private theorem MapBlock.WellNamed.reached {blocks : List MapBlock} (h : WellNamed blocks) {block : MapBlock}
    (hblock : block ∈ blocks) :
    block.Reached (blocks.map fun block => (block.key, block.lookupTable)) block.lookupTable where
  name := LookupTable.name_ofEntries ..
  found root name hname := by
    rw [RuleSet.table?_eq, hname]
    exact h.find? hblock
  called hcallable registry name input value hname hinput hdepth hvalue := by
    refine ⟨value.withOperation (.table block.lookupTable), ?_, fun request scratch => ?_⟩
    · rw [Names.compile_lookup (h.find? hblock) hcallable (h.noColon block hblock) hname hinput hdepth, hvalue]
      rfl
    · rw [Value.read_withOperation]
      rfl
  ordered := ⟨sortedByName_perm _, pairwise_sortedByName _⟩
  lookup key := LookupTable.lookup_ofEntries _ _ _ key

/-- The tables of blocks compile if and only if their names may stand side by side, and then there is one table for each
block, with what the block says, and within reach. -/
theorem compileTables_complete (place : Place) (blocks : List MapBlock) :
    ((∃ tables, (compileTables place 0 [] blocks).result = .ok tables) ↔ MapBlock.WellNamed blocks) ∧
      ∀ tables, (compileTables place 0 [] blocks).result = .ok tables →
        tables.length = blocks.length ∧
          ∀ (position : Nat) (block : MapBlock), blocks[position]? = some block →
            ∃ table, tables[position]? = some (Text.lowerAscii block.tableName, table) ∧
              block.Reached tables table := by
  constructor
  · constructor
    · rintro ⟨tables, h⟩
      exact (compileTables_eq_ok_iff.mp h).1
    · exact fun h => ⟨_, compileTables_eq_ok_iff.mpr ⟨h, rfl⟩⟩
  · intro tables h
    obtain ⟨hnames, rfl⟩ := compileTables_eq_ok_iff.mp h
    refine ⟨List.length_map _, fun position block hblock => ⟨block.lookupTable, ?_, ?_⟩⟩
    · rw [List.getElem?_map, hblock, Option.map_some, MapBlock.key]
    · exact hnames.reached (List.mem_of_getElem? hblock)

/-- Two tables, the first with blanks around its name and with two keys that are the same in small letters. -/
def MapBlock.colours : List MapBlock :=
  [⟨some " Colours ", some "none", [("Red", "#f00"), ("red", "#e00")]⟩, ⟨some "Ports", none, []⟩]

theorem compileTables_complete_colours :
    ∃ tables table, (compileTables ⟨"rules.hcl", []⟩ 0 [] MapBlock.colours).result = .ok tables ∧
      tables.length = 2 ∧ tables[0]? = some ("colours", table) ∧
      (RuleSet.mk ⟨"root", false, []⟩ tables).table? "COLOURS" = some table ∧ table.lookup "RED" = "#e00" ∧
      ∃ lookup, (Names.mk tables .empty).compile "\x7bcolours:\x7bR:1\x7d\x7d" = .ok lookup ∧
        ∀ (request : Request) (scratch : Scratch),
          lookup.read request scratch = table.lookup (scratch.capture .fromMatch 1) := by
  obtain ⟨hcompiles, hreached⟩ := compileTables_complete ⟨"rules.hcl", []⟩ MapBlock.colours
  have hnames : MapBlock.WellNamed MapBlock.colours := ⟨by decide, by decide, by decide⟩
  obtain ⟨tables, htables⟩ := hcompiles.mpr hnames
  obtain ⟨hlength, hblocks⟩ := hreached tables htables
  obtain ⟨table, htable, hcolours⟩ := hblocks 0 _ rfl
  have hsorted : sortedByName [("Red", "#f00"), ("red", "#e00")] = [("Red", "#f00"), ("red", "#e00")] :=
    List.mergeSort_of_pairwise (by decide)
  have hlookup : table.lookup "RED" = "#e00" := by
    rw [hcolours.lookup, hsorted]
    decide +kernel
  have hcallable : MapBlock.Callable ⟨some " Colours ", some "none", [("Red", "#f00"), ("red", "#e00")]⟩ := by
    refine ⟨by decide, ?_, by decide, by decide⟩
    intro key
    cases key <;> decide
  have hgroup : (Names.mk tables .empty).compile "\x7bR:1\x7d" = .ok (.getter (.capture .fromMatch 1)) := rfl
  obtain ⟨lookup, hcompile, hread⟩ :=
    hcolours.called hcallable .empty "colours" "\x7bR:1\x7d" _ (by decide) (by decide) (by decide) hgroup
  refine ⟨tables, table, htables, hlength, ?_, ?_, hlookup, lookup, hcompile, fun request scratch => ?_⟩
  · exact htable
  · exact hcolours.found ⟨"root", false, []⟩ "COLOURS" (by decide)
  · exact hread request scratch

end Reroute
