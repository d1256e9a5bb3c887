import Mathlib.Data.List.Nodup
import Reroute.Config.Place
import Reroute.Proofs.Text.Basic
import Reroute.Proofs.Text.Numeral

/-!
# Places identify blocks

The words of a place are read back to its steps, and the steps lead to the one block that has the place.  So the list
of the blocks holds every block that steps from the top lead to, no two of them are displayed alike, and whoever reads
where a block is finds it (`Document.at?`).
-/

namespace Reroute

/-! ### Reading the words of a place -/

namespace Step

/-- The step of a name that stands alone. -/
def single? : String → Option Step
  | "match" => some pattern
  | "conditions" => some conditions
  | "group" => some group
  | _ => none

/-- The steps of a name that is numbered. -/
def counted? : String → Option (Nat → Step)
  | "rewrite_maps" => some map
  | "rules" => some rule
  | "actions" => some action
  | "items" => some item
  | _ => none

/-- The step that words describe. -/
def read? (text : String) : Option Step :=
  match Text.cut? '[' text with
  | none => single? text
  | some (name, rest) => do
    let (digits, behind) ← Text.cut? ']' rest
    let index ← Text.readDigits? digits.toList
    let step ← counted? name
    if behind = "" then some (step index) else none

private theorem read?_numbered {name : String} {step : Nat → Step} (hname : '[' ∉ name.toList)
    (hstep : counted? name = some step) (index : Nat) : read? (numbered name index) = some (step index) := by
  have hdigits : ']' ∉ (toString index).toList := fun h => absurd (Text.isDigit_of_mem_toString h) (by decide)
  have hopen : Text.cut? '[' (numbered name index) = some (name, toString index ++ "]") :=
    Text.cut?_eq_some.mpr ⟨by simp [numbered], hname⟩
  have hclose : Text.cut? ']' (toString index ++ "]") = some (toString index, "") :=
    Text.cut?_eq_some.mpr ⟨by simp, hdigits⟩
  simp only [read?, hopen, hclose, Text.readDigits?_toString, hstep, Option.bind_eq_bind, Option.bind_some, if_pos]

private theorem read?_single {name : String} (hname : '[' ∉ name.toList) : read? name = single? name := by
  rw [read?, Text.cut?_eq_none.mpr hname]

private theorem read?_describe (step : Step) : read? step.describe = some step := by
  cases step with
  | map index => exact read?_numbered (by decide) rfl index
  | rule index => exact read?_numbered (by decide) rfl index
  | action index => exact read?_numbered (by decide) rfl index
  | item index => exact read?_numbered (by decide) rfl index
  | pattern => exact read?_single (by decide)
  | conditions => exact read?_single (by decide)
  | group => exact read?_single (by decide)

private theorem not_mem_numbered {name : String} (hname : '.' ∉ name.toList) (index : Nat) :
    '.' ∉ (numbered name index).toList := by
  have hdigits : '.' ∉ (toString index).toList := fun h => absurd (Text.isDigit_of_mem_toString h) (by decide)
  simp only [numbered, String.toList_append, List.mem_append, not_or]
  exact ⟨⟨⟨hname, by decide⟩, hdigits⟩, by decide⟩

/-- The words of a step are no two steps. -/
private theorem not_mem_describe (step : Step) : '.' ∉ step.describe.toList := by
  cases step with
  | map index => exact not_mem_numbered (by decide) index
  | rule index => exact not_mem_numbered (by decide) index
  | action index => exact not_mem_numbered (by decide) index
  | item index => exact not_mem_numbered (by decide) index
  | pattern => decide
  | conditions => decide
  | group => decide

end Step

namespace Place

/-- The steps that the words of a place describe. -/
def readPath? (text : String) : Option (List Step) := (Text.split '.' text).mapM Step.read?

private theorem readPath?_path {place : Place} (h : place.steps ≠ []) : readPath? place.path = some place.steps := by
  have hsplit : Text.split '.' place.path = place.steps.map Step.describe := by
    refine Text.split_join rfl (by simpa using h) ?_
    simpa using fun step _ => step.not_mem_describe
  rw [readPath?, hsplit]
  clear hsplit h
  induction place.steps with
  | nil => rfl
  | cons step steps ih =>
    rw [List.map_cons, List.mapM_cons, Step.read?_describe, ih]
    rfl

example : readPath? "rules[1].conditions.items[10].group.items[0]" =
    some [.rule 1, .conditions, .item 10, .group, .item 0] := by decide

/-- Places in one file that are displayed alike are the same. -/
private theorem describe_injective {place other : Place} (hfile : place.file = other.file) (hplace : place.steps ≠ [])
    (hother : other.steps ≠ []) (h : place.describe = other.describe) : place = other := by
  obtain ⟨file, steps⟩ := place
  obtain ⟨file', steps'⟩ := other
  cases hfile
  have hpath : path ⟨file, steps⟩ = path ⟨file, steps'⟩ := by
    simpa [describe, ← String.toList_inj] using h
  have hread := readPath?_path hplace
  rw [hpath, readPath?_path hother] at hread
  cases hread
  rfl

end Place

/-! ### Blocks along steps -/

namespace Place

/-- A place some steps further inside. -/
def along (place : Place) (steps : List Step) : Place := { place with steps := place.steps ++ steps }

private theorem along_nil (place : Place) : place.along [] = place := by simp [along]

private theorem along_inside (place : Place) (step : Step) (steps : List Step) :
    (place.inside step).along steps = place.along (step :: steps) := by simp [along, inside]

private theorem along_inj {place : Place} {steps others : List Step} :
    place.along steps = place.along others ↔ steps = others := by
  simp [along]

/-- The list holds the blocks that steps from a place lead to, every place once. -/
structure Lists (place : Place) (leads : List Step → Block → Prop) (listed : List (Place × Block)) : Prop where
  mem_iff : ∀ other block, (other, block) ∈ listed ↔ ∃ steps, other = place.along steps ∧ leads steps block
  nodup : (listed.map Prod.fst).Nodup

namespace Lists

variable {place : Place} {leads more : List Step → Block → Prop} {listed others : List (Place × Block)}

private theorem congr (h : place.Lists leads listed) (hleads : ∀ steps block, more steps block ↔ leads steps block) :
    place.Lists more listed := by
  refine ⟨fun other block => ?_, h.nodup⟩
  simp only [h.mem_iff, hleads]

/-- A block at the place itself. -/
private theorem single (place : Place) (block : Block) :
    place.Lists (fun steps found => steps = [] ∧ found = block) [(place, block)] := by
  refine ⟨fun other found => ?_, List.nodup_singleton place⟩
  rw [List.mem_singleton, Prod.mk.injEq]
  constructor
  · rintro ⟨rfl, rfl⟩
    exact ⟨[], (along_nil other).symm, rfl, rfl⟩
  · rintro ⟨-, rfl, rfl, rfl⟩
    exact ⟨along_nil place, rfl⟩

/-- Blocks on some ways, and then blocks on other ways. -/
private theorem append (h : place.Lists leads listed) (hmore : place.Lists more others)
    (hapart : ∀ steps block found, leads steps block → ¬more steps found) :
    place.Lists (fun steps block => leads steps block ∨ more steps block) (listed ++ others) := by
  constructor
  · intro other block
    rw [List.mem_append, h.mem_iff, hmore.mem_iff, ← exists_or]
    simp only [and_or_left]
  · rw [List.map_append, List.nodup_append]
    refine ⟨h.nodup, hmore.nodup, ?_⟩
    rintro _ hfirst _ hsecond rfl
    obtain ⟨⟨_, block⟩, hblock, rfl⟩ := List.mem_map.mp hfirst
    obtain ⟨⟨_, found⟩, hfound, rfl⟩ := List.mem_map.mp hsecond
    obtain ⟨steps, rfl, hsteps⟩ := (h.mem_iff _ block).mp hblock
    obtain ⟨steps', hplace, hsteps'⟩ := (hmore.mem_iff _ found).mp hfound
    cases along_inj.mp hplace
    exact hapart steps block found hsteps hsteps'

/-- Blocks behind a first step. -/
private theorem inside {step : Step} (h : (place.inside step).Lists leads listed) :
    place.Lists (fun steps block => ∃ rest, steps = step :: rest ∧ leads rest block) listed := by
  refine ⟨fun other block => ?_, h.nodup⟩
  rw [h.mem_iff]
  constructor
  · rintro ⟨rest, rfl, hrest⟩
    exact ⟨step :: rest, along_inside place step rest, rest, rfl, hrest⟩
  · rintro ⟨-, rfl, rest, rfl, hrest⟩
    exact ⟨rest, (along_inside place step rest).symm, hrest⟩

end Lists

/-- The blocks of items at numbered places, counted from an index. -/
def numbered {α : Type} (step : Nat → Step) (blocks : Place → α → List (Place × Block)) (place : Place) (index : Nat) :
    List α → List (Place × Block)
  | [] => []
  | item :: items => blocks (place.inside (step index)) item ++ numbered step blocks place (index + 1) items

/-- What a numbered step and the steps behind it lead to. -/
def Numbered {α : Type} (step : Nat → Step) (leads : α → List Step → Block → Prop) (index : Nat) (items : List α)
    (steps : List Step) (block : Block) : Prop :=
  ∃ i item rest, items[i]? = some item ∧ steps = step (index + i) :: rest ∧ leads item rest block

private theorem numbered_cons_iff {α : Type} {step : Nat → Step} {leads : α → List Step → Block → Prop} {index : Nat}
    {item : α} {items : List α} {steps : List Step} {block : Block} :
    Numbered step leads index (item :: items) steps block ↔
      (∃ rest, steps = step index :: rest ∧ leads item rest block) ∨
        Numbered step leads (index + 1) items steps block := by
  constructor
  · rintro ⟨i, found, rest, hfound, rfl, hrest⟩
    cases i with
    | zero =>
      cases hfound
      exact .inl ⟨rest, rfl, hrest⟩
    | succ i => exact .inr ⟨i, found, rest, hfound, by rw [Nat.add_right_comm, Nat.add_assoc], hrest⟩
  · rintro (⟨rest, rfl, hrest⟩ | ⟨i, found, rest, hfound, rfl, hrest⟩)
    · exact ⟨0, item, rest, rfl, rfl, hrest⟩
    · exact ⟨i + 1, found, rest, hfound, by rw [Nat.add_right_comm, Nat.add_assoc], hrest⟩

/-- Items at numbered places, each of which lists its own blocks. -/
private theorem lists_numbered {α : Type} {step : Nat → Step} (hstep : Function.Injective step)
    {leads : α → List Step → Block → Prop} {blocks : Place → α → List (Place × Block)} (items : List α)
    (h : ∀ item ∈ items, ∀ place : Place, place.Lists (leads item) (blocks place item)) (place : Place) (index : Nat) :
    place.Lists (Numbered step leads index items) (numbered step blocks place index items) := by
  induction items generalizing index with
  | nil => exact ⟨by simp [numbered, Numbered], List.nodup_nil⟩
  | cons item items ih =>
    have hfirst := (h item List.mem_cons_self (place.inside (step index))).inside
    have hrest := ih (fun other hother => h other (List.mem_cons_of_mem item hother)) (index + 1)
    -- all later items have larger numbers
    refine (hfirst.append hrest ?_).congr fun steps block => numbered_cons_iff
    rintro _ _ _ ⟨_, rfl, -⟩ ⟨i, _, _, -, hsteps, -⟩
    have hindex := hstep (List.cons.inj hsteps).1
    omega

end Place

/-! ### The blocks of a document -/

open Place (Numbered numbered)

private theorem ConditionBlock.blocksFrom_eq (place : Place) (index : Nat) (items : List ConditionBlock) :
    blocksFrom place index items = numbered .item (fun place item => item.blocks place) place index items := by
  induction items generalizing index with
  | nil => rw [blocksFrom, numbered]
  | cons item items ih => rw [blocksFrom, numbered, ih]

private theorem ActionBlock.blocksFrom_eq (place : Place) (index : Nat) (actions : List ActionBlock) :
    blocksFrom place index actions =
      numbered .action (fun place action => [(place, .action action)]) place index actions := by
  induction actions generalizing index with
  | nil => rfl
  | cons action actions ih => rw [blocksFrom, numbered, ih, List.singleton_append]

private theorem RuleBlock.blocksFrom_eq (place : Place) (index : Nat) (rules : List RuleBlock) :
    blocksFrom place index rules = numbered .rule (fun place rule => rule.blocks place) place index rules := by
  induction rules generalizing index with
  | nil => rw [blocksFrom, numbered]
  | cons rule rules ih => rw [blocksFrom, numbered, ih]

private theorem MapBlock.blocksFrom_eq (place : Place) (index : Nat) (maps : List MapBlock) :
    blocksFrom place index maps = numbered .map (fun place map => [(place, .map map)]) place index maps := by
  induction maps generalizing index with
  | nil => rfl
  | cons map maps ih => rw [blocksFrom, numbered, ih, List.singleton_append]

namespace ConditionBlock

/-- What steps inside a condition lead to. -/
def Leads (block : ConditionBlock) (steps : List Step) (found : Block) : Prop := block.find? steps = some found

private theorem leads_iff {block : ConditionBlock} {steps : List Step} {found : Block} :
    block.Leads steps found ↔ (steps = [] ∧ found = .condition block) ∨
      ∃ rest, steps = .group :: rest ∧ ∃ group, block.group = some group ∧
        Numbered .item Leads 0 group.items rest found := by
  obtain ⟨test, group⟩ := block
  unfold Leads
  constructor
  · intro h
    unfold find? at h
    split at h
    · cases h
      exact .inl ⟨rfl, rfl⟩
    · rename_i group index rest hblock
      cases hblock
      obtain ⟨item, hitem, hfound⟩ := Option.bind_eq_some_iff.mp h
      exact .inr ⟨_, rfl, group, rfl, index, item, rest, hitem, by rw [Nat.zero_add], hfound⟩
    · cases h
  · rintro (⟨rfl, rfl⟩ | ⟨_, rfl, group, hgroup, index, item, rest, hitem, rfl, hfound⟩)
    · rw [find?]
    · cases hgroup
      rw [Nat.zero_add, find?, hitem]
      exact hfound

mutual

private theorem lists_blocks : ∀ (block : ConditionBlock) (place : Place), place.Lists block.Leads (block.blocks place)
  | ⟨test, none⟩, place => by
    rw [blocks]
    refine (Place.Lists.single place (.condition ⟨test, none⟩)).congr fun steps found => ?_
    simp [leads_iff]
  | ⟨test, some ⟨logic, trackCaptures, items⟩⟩, place => by
    rw [blocks, GroupBlock.blocks, blocksFrom_eq]
    have hitems := (Place.lists_numbered (fun _ _ => Step.item.inj) items (lists_items items)
      (place.inside .group) 0).inside
    refine ((Place.Lists.single place (.condition ⟨test, some ⟨logic, trackCaptures, items⟩⟩)).append hitems ?_).congr
      fun steps found => ?_
    · rintro _ _ _ ⟨rfl, -⟩ ⟨_, hsteps, -⟩
      cases hsteps
    · simp [leads_iff]

private theorem lists_items : ∀ (items : List ConditionBlock), ∀ item ∈ items, ∀ place : Place,
    place.Lists item.Leads (item.blocks place)
  | [] => List.forall_mem_nil _
  | item :: items => List.forall_mem_cons.mpr ⟨lists_blocks item, lists_items items⟩

end

end ConditionBlock

/-- What steps inside a group lead to. -/
def GroupBlock.Leads (group : GroupBlock) : List Step → Block → Prop :=
  Numbered .item ConditionBlock.Leads 0 group.items

private theorem GroupBlock.lists_blocks (group : GroupBlock) (place : Place) :
    place.Lists group.Leads (group.blocks place) := by
  obtain ⟨logic, trackCaptures, items⟩ := group
  rw [blocks, ConditionBlock.blocksFrom_eq]
  exact Place.lists_numbered (fun _ _ => Step.item.inj) items (ConditionBlock.lists_items items) place 0

/-- What the step to an action leads to. -/
def ActionBlock.Leads (action : ActionBlock) (steps : List Step) (found : Block) : Prop :=
  steps = [] ∧ found = .action action

private theorem ActionBlock.lists_blocks (place : Place) (actions : List ActionBlock) :
    place.Lists (Numbered .action Leads 0 actions) (blocksFrom place 0 actions) := by
  rw [blocksFrom_eq]
  exact Place.lists_numbered (fun _ _ => Step.action.inj) actions (fun action _ place => .single place (.action action))
    place 0

namespace RuleBlock

/-- What steps inside a rule lead to. -/
def Leads (block : RuleBlock) (steps : List Step) (found : Block) : Prop := block.find? steps = some found

/-- What steps to the conditions of a rule lead to. -/
def ConditionsLead (conditions : Option GroupBlock) (steps : List Step) (found : Block) : Prop :=
  ∃ rest, steps = .conditions :: rest ∧ ∃ group, conditions = some group ∧ group.Leads rest found

private theorem leads_iff {block : RuleBlock} {steps : List Step} {found : Block} :
    block.Leads steps found ↔
      (((steps = [] ∧ found = .rule block) ∨ ConditionsLead block.conditions steps found) ∨
        Numbered .action ActionBlock.Leads 0 block.actions steps found) ∨
        Numbered .rule Leads 0 block.rules steps found := by
  unfold Leads
  constructor
  · intro h
    unfold find? at h
    split at h
    · cases h
      exact .inl (.inl (.inl ⟨rfl, rfl⟩))
    · rename_i index rest
      obtain ⟨item, hitem, hfound⟩ := Option.bind_eq_some_iff.mp h
      obtain ⟨group, hgroup, hitem⟩ := Option.bind_eq_some_iff.mp hitem
      exact .inl (.inl (.inr ⟨_, rfl, group, hgroup, index, item, rest, hitem, by rw [Nat.zero_add], hfound⟩))
    · rename_i index
      obtain ⟨action, haction, rfl⟩ := Option.map_eq_some_iff.mp h
      exact .inl (.inr ⟨index, action, [], haction, by rw [Nat.zero_add], rfl, rfl⟩)
    · rename_i index rest
      obtain ⟨rule, hrule, hfound⟩ := Option.bind_eq_some_iff.mp h
      exact .inr ⟨index, rule, rest, hrule, by rw [Nat.zero_add], hfound⟩
    · cases h
  · rintro (((⟨rfl, rfl⟩ | ⟨_, rfl, group, hgroup, index, item, rest, hitem, rfl, hfound⟩) |
      ⟨index, action, _, haction, rfl, rfl, rfl⟩) | ⟨index, rule, rest, hrule, rfl, hfound⟩)
    · rw [find?]
    · rw [Nat.zero_add, find?, hgroup, Option.bind_some, hitem]
      exact hfound
    · rw [Nat.zero_add, find?, haction]
      rfl
    · rw [Nat.zero_add, find?, hrule]
      exact hfound

/-- The conditions of a rule at a place. -/
def conditionBlocks (place : Place) : Option GroupBlock → List (Place × Block)
  | some group => group.blocks (place.inside .conditions)
  | none => []

theorem blocks_eq (block : RuleBlock) (place : Place) :
    block.blocks place = [(place, .rule block)] ++ conditionBlocks place block.conditions ++
      ActionBlock.blocksFrom place 0 block.actions ++ blocksFrom place 0 block.rules := by
  obtain ⟨name, stop, dynamic, enabled, matcher, conditions, actions, rules⟩ := block
  cases conditions <;> rfl

private theorem lists_conditionBlocks (place : Place) (conditions : Option GroupBlock) :
    place.Lists (ConditionsLead conditions) (conditionBlocks place conditions) := by
  cases conditions with
  | none => exact ⟨by simp [ConditionsLead, conditionBlocks], List.nodup_nil⟩
  | some group =>
    refine (group.lists_blocks (place.inside .conditions)).inside.congr fun steps found => ?_
    simp [ConditionsLead]

mutual

private theorem lists_blocks : ∀ (block : RuleBlock) (place : Place), place.Lists block.Leads (block.blocks place)
  | ⟨name, stop, dynamic, enabled, matcher, conditions, actions, rules⟩, place => by
    rw [blocks_eq, blocksFrom_eq]
    have hconditions := lists_conditionBlocks place conditions
    have hactions := ActionBlock.lists_blocks place actions
    have hrules := Place.lists_numbered (fun _ _ => Step.rule.inj) rules (lists_rules rules) place 0
    -- the first step tells the parts of the rule apart
    refine (((Place.Lists.single place _).append hconditions ?_).append hactions ?_ |>.append hrules ?_).congr
      fun steps found => leads_iff
    · rintro _ _ _ ⟨rfl, -⟩ ⟨_, hsteps, -⟩
      cases hsteps
    · rintro _ _ _ (⟨rfl, -⟩ | ⟨_, rfl, -⟩) ⟨_, _, _, -, hsteps, -⟩ <;> cases hsteps
    · rintro _ _ _ ((⟨rfl, -⟩ | ⟨_, rfl, -⟩) | ⟨_, _, _, -, rfl, -⟩) ⟨_, _, _, -, hsteps, -⟩ <;> cases hsteps

private theorem lists_rules : ∀ (rules : List RuleBlock), ∀ rule ∈ rules, ∀ place : Place,
    place.Lists rule.Leads (rule.blocks place)
  | [] => List.forall_mem_nil _
  | rule :: rules => List.forall_mem_cons.mpr ⟨lists_blocks rule, lists_rules rules⟩

end

end RuleBlock

namespace Document

private theorem find?_eq_some {document : Document} {steps : List Step} {found : Block} :
    document.find? steps = some found ↔
      Numbered .map (fun map rest found => rest = [] ∧ found = .map map) 0 document.maps steps found ∨
        Numbered .rule RuleBlock.Leads 0 (document.rules.getD []) steps found := by
  constructor
  · intro h
    unfold find? at h
    split at h
    · rename_i index
      obtain ⟨map, hmap, rfl⟩ := Option.map_eq_some_iff.mp h
      exact .inl ⟨index, map, [], hmap, by rw [Nat.zero_add], rfl, rfl⟩
    · rename_i index rest
      obtain ⟨rule, hrule, hfound⟩ := Option.bind_eq_some_iff.mp h
      exact .inr ⟨index, rule, rest, hrule, by rw [Nat.zero_add], hfound⟩
    · cases h
  · rintro (⟨index, map, _, hmap, rfl, rfl, rfl⟩ | ⟨index, rule, rest, hrule, rfl, hfound⟩)
    · rw [Nat.zero_add, find?, hmap]
      rfl
    · rw [Nat.zero_add, find?, hrule]
      exact hfound

private theorem lists_blocks (document : Document) (file : String) :
    Place.Lists ⟨file, []⟩ (fun steps found => document.find? steps = some found) (document.blocks file) := by
  rw [blocks, MapBlock.blocksFrom_eq, RuleBlock.blocksFrom_eq]
  have hmaps := Place.lists_numbered (fun _ _ => Step.map.inj) document.maps
    (fun map _ place => .single place (.map map)) ⟨file, []⟩ 0
  have hrules := Place.lists_numbered (fun _ _ => Step.rule.inj) (document.rules.getD [])
    (RuleBlock.lists_rules (document.rules.getD [])) ⟨file, []⟩ 0
  refine (hmaps.append hrules ?_).congr fun steps found => find?_eq_some
  rintro _ _ _ ⟨_, _, _, -, rfl, -⟩ ⟨_, _, _, -, hsteps, -⟩
  cases hsteps

/-- A block is listed at a place if and only if the steps to the place lead to it. -/
theorem mem_blocks_iff {document : Document} {file : String} {place : Place} {block : Block} :
    (place, block) ∈ document.blocks file ↔ place.file = file ∧ document.find? place.steps = some block := by
  rw [(document.lists_blocks file).mem_iff]
  obtain ⟨other, steps⟩ := place
  constructor
  · rintro ⟨_, hplace, h⟩
    cases hplace
    exact ⟨rfl, h⟩
  · rintro ⟨rfl, h⟩
    exact ⟨steps, rfl, h⟩

/-- The block that the words of a place lead to, from the top of a document. -/
def at? (document : Document) (text : String) : Option Block := (Place.readPath? text).bind document.find?

private theorem steps_ne_nil {document : Document} {file : String} {place : Place} {block : Block}
    (h : (place, block) ∈ document.blocks file) : place.steps ≠ [] := by
  obtain ⟨-, hfound⟩ := mem_blocks_iff.mp h
  intro hsteps
  rw [hsteps] at hfound
  cases hfound

theorem at?_path {document : Document} {file : String} {place : Place} {block : Block}
    (h : (place, block) ∈ document.blocks file) : document.at? place.path = some block := by
  rw [at?, Place.readPath?_path (steps_ne_nil h)]
  exact (mem_blocks_iff.mp h).2

/-- No two blocks of a document are displayed alike. -/
theorem nodup_describe (document : Document) (file : String) :
    (((document.blocks file).map Prod.fst).map Place.describe).Nodup := by
  refine List.Nodup.map_on ?_ (document.lists_blocks file).nodup
  intro place hplace other hother h
  obtain ⟨⟨_, block⟩, hblock, rfl⟩ := List.mem_map.mp hplace
  obtain ⟨⟨_, found⟩, hfound, rfl⟩ := List.mem_map.mp hother
  have hfile := (mem_blocks_iff.mp hblock).1.trans (mem_blocks_iff.mp hfound).1.symm
  exact Place.describe_injective hfile (steps_ne_nil hblock) (steps_ne_nil hfound) h

end Document

end Reroute
