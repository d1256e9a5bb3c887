import Mathlib.Data.List.Sort
import Reroute.Proofs.Request.Elements
import Reroute.Proofs.Request.Names

/-!
# What an allow-list lists

Only the set of things that an allow-list lists counts.  Indices keep the first segment and the segments that they
address, in the order of the path: two lists of indices that address the same positions keep the same
(`Path.AddressAlike.keepPositions_eq`), be it that one has its indices in another order, more than once, counted from
the other end, or next to others that address nothing.  Names keep the entries that go by one of them, whatever the case
of their letters (`Request.keep_as_listed`).
-/

namespace Reroute

/-! ### Indices -/

namespace Path

variable {segments : List String} {indices others : List Int}

/-- Two lists of indices address the same positions. -/
def AddressAlike (segments : List String) (indices others : List Int) : Prop :=
  ∀ position, (∃ index ∈ indices, resolve? segments index = some position) ↔
    ∃ index ∈ others, resolve? segments index = some position

/-- The positions are increasing, so they are known from which they are. -/
theorem AddressAlike.keepPositions_eq (h : AddressAlike segments indices others) :
    keepPositions segments indices = keepPositions segments others := by
  refine (pairwise_keepPositions segments indices).eq_of_mem_iff (pairwise_keepPositions segments others) ?_
  intro position
  rw [mem_keepPositions, mem_keepPositions, h position]

private theorem addressAlike_of_mem_iff (h : ∀ index, index ∈ indices ↔ index ∈ others) :
    AddressAlike segments indices others := by
  intro position
  simp only [h]

/-- Indices that address nothing make no difference. -/
private theorem addressAlike_append {added : List Int} (h : ∀ index ∈ added, ¬Addresses segments index) :
    AddressAlike segments (indices ++ added) indices := by
  intro position
  constructor
  · rintro ⟨index, hindex, hposition⟩
    obtain hindex | hindex := List.mem_append.mp hindex
    · exact ⟨index, hindex, hposition⟩
    · rw [resolve?_eq_none.mpr (h index hindex)] at hposition
      cases hposition
  · rintro ⟨index, hindex, hposition⟩
    exact ⟨index, List.mem_append_left added hindex, hposition⟩

/-- An index may be exchanged for another one that addresses the same. -/
private theorem addressAlike_exchange {index other : Int} (h : resolve? segments index = resolve? segments other)
    (front back : List Int) : AddressAlike segments (front ++ index :: back) (front ++ other :: back) := by
  intro position
  simp only [List.mem_append, List.mem_cons, or_and_right, exists_or, exists_eq_left, h]

/-- The same element counted from the front and from behind. -/
private theorem resolve?_sub_effectiveCount {index : Int} (hpos : 0 < index) (hlt : index < effectiveCount segments) :
    resolve? segments (index - effectiveCount segments) = resolve? segments index := by
  obtain ⟨position, rfl⟩ := Int.eq_ofNat_of_zero_le (Int.le_of_lt hpos)
  have hposition : resolve? segments position = some position := by
    rw [resolve?_natCast (by omega), if_pos (by omega)]
  rw [hposition, resolve?_eq_some]
  omega

/-- The positions that are kept, taken as indices, keep themselves. -/
private theorem keepPositions_keepPositions (segments : List String) (indices : List Int) :
    keepPositions segments ((keepPositions segments indices).map Int.ofNat) = keepPositions segments indices := by
  refine AddressAlike.keepPositions_eq fun position => ?_
  constructor
  · rintro ⟨index, hindex, hposition⟩
    obtain ⟨kept, hkept, rfl⟩ := List.mem_map.mp hindex
    obtain ⟨hkept' | hkept', hpos, hlt⟩ := resolve?_eq_some.mp hposition
    · obtain rfl : kept = position := Int.ofNat.inj hkept'
      obtain rfl | haddressed := mem_keepPositions.mp hkept
      · exact absurd hpos (Nat.lt_irrefl 0)
      · exact haddressed
    · simp only [Int.ofNat_eq_natCast] at hkept'
      omega
  · rintro ⟨index, hindex, hposition⟩
    have hkept : position ∈ keepPositions segments indices := mem_keepPositions.mpr (.inr ⟨index, hindex, hposition⟩)
    obtain ⟨-, hpos, hlt⟩ := resolve?_eq_some.mp hposition
    exact ⟨position, List.mem_map_of_mem hkept, by rw [resolve?_natCast hpos, if_pos hlt]⟩

/-- What is selected are the segments at the kept positions, in their order. -/
private theorem select_keepPositions (segments : List String) (indices : List Int) :
    select (keepPositions segments indices) 0 segments =
      (keepPositions segments indices).filterMap (segments[·]?) := by
  by_cases hnil : segments = []
  · subst hnil
    simp [select]
  · rw [← map_getD_keepPositions hnil, ← List.filterMap_eq_map]
    refine List.filterMap_congr fun position hposition => ?_
    simp [List.getElem?_eq_getElem (lt_length_of_mem_keepPositions hnil hposition)]

end Path

/-! ### Names -/

namespace AllowList

variable {list other : Option String} {name : String}

/-- A list in text form lists a name; the case of ASCII letters does not count. -/
def Lists (list : Option String) (name : String) : Prop :=
  ∃ item ∈ listed list, Text.lowerAscii item = Text.lowerAscii name

instance (list : Option String) (name : String) : Decidable (Lists list name) :=
  inferInstanceAs (Decidable (∃ item ∈ listed list, Text.lowerAscii item = Text.lowerAscii name))

/-- The names that are kept of a list are the small ones that it lists. -/
private theorem mem_map_lowerAscii_listed :
    name ∈ (listed list).map Text.lowerAscii ↔ Lists list name ∧ Text.lowerAscii name = name := by
  rw [List.mem_map]
  constructor
  · rintro ⟨item, hitem, rfl⟩
    exact ⟨⟨item, hitem, (Text.lowerAscii_lowerAscii item).symm⟩, Text.lowerAscii_lowerAscii item⟩
  · rintro ⟨⟨item, hitem, hname⟩, hsmall⟩
    exact ⟨item, hitem, hname.trans hsmall⟩

/-- Small names are among those of a list if it lists them. -/
private theorem filter_contains_listed {α : Type} {entries : List (String × α)}
    (h : SmallNames (entries.map Prod.fst)) :
    (entries.filter fun entry => ((listed list).map Text.lowerAscii).contains entry.1) =
      entries.filter fun entry => Lists list entry.1 := by
  refine List.filter_congr fun entry hentry => ?_
  have hsmall : Text.lowerAscii entry.1 = entry.1 := h.small entry.1 (List.mem_map_of_mem hentry)
  rw [Bool.eq_iff_iff, List.contains_iff_mem, mem_map_lowerAscii_listed, decide_eq_true_iff, and_iff_left hsmall]

/-- Lists that list the same names have the same names. -/
private theorem mem_listed_iff (h : ∀ name, Lists list name ↔ Lists other name) (name : String) :
    name ∈ (listed list).map Text.lowerAscii ↔ name ∈ (listed other).map Text.lowerAscii := by
  rw [mem_map_lowerAscii_listed, mem_map_lowerAscii_listed, h name]

end AllowList

namespace Request

variable (request : Request) {names others : List String}

private theorem query_keep_parameters (names : List String) :
    (request.keep (.parameters names)).query = request.query.filter fun entry => names.contains entry.1 := by
  simp only [keep]
  split
  · rename_i hall
    exact (List.filter_eq_self.mpr (List.all_eq_true.mp hall)).symm
  · rfl

private theorem headers_keep_headers (names : List String) :
    (request.keep (.headers names)).headers.live =
      request.headers.live.filter fun entry => names.contains entry.1 := by
  simp only [keep]
  split
  · rename_i hall
    exact (List.filter_eq_self.mpr (List.all_eq_true.mp hall)).symm
  · rfl

/-- Names in another order or more than once keep the same. -/
private theorem keep_names_eq (h : ∀ name, name ∈ names ↔ name ∈ others) :
    request.keep (.parameters names) = request.keep (.parameters others) ∧
      request.keep (.headers names) = request.keep (.headers others) := by
  have hcontains : ∀ name, names.contains name = others.contains name := by
    intro name
    rw [Bool.eq_iff_iff, List.contains_iff_mem, List.contains_iff_mem, h name]
  have hcontains' : names.contains = others.contains := funext hcontains
  simp only [keep, hcontains, hcontains', and_self]

/-! ### As listed -/

/-- Indices keep the segments at position zero and at the positions that they address, once each and in the order of the
path; those positions, taken as indices, keep themselves.  It makes no difference in which order and how often indices
are listed, whether others that address nothing are listed as well, and from which end an element is counted.  Names
keep the parameters and headers that go by one of them, with all that stands under them and in their order, and lists of
the same names keep the same.  (The names in both tables of a request are small from the start, and stay so.) -/
theorem keep_as_listed (env : Env) (request : Request) (scratch : Scratch) :
    let keep (list : AllowList) := (Action.perform env (.keep list) request scratch).request
    (∀ indices,
      let positions := Path.keepPositions request.path indices
      positions.Pairwise (· < ·) ∧
        (∀ position, position ∈ positions ↔
          position = 0 ∨ ∃ index ∈ indices, Path.resolve? request.path index = some position) ∧
        keep (.elements indices) =
          request.setSegments (Path.ensureRoot (positions.filterMap (request.path[·]?))) ∧
        Path.keepPositions request.path (positions.map Int.ofNat) = positions) ∧
      (∀ indices others, (∀ index, index ∈ indices ↔ index ∈ others) →
        keep (.elements indices) = keep (.elements others)) ∧
      (∀ indices added, (∀ index ∈ added, ¬Path.Addresses request.path index) →
        keep (.elements (indices ++ added)) = keep (.elements indices)) ∧
      (∀ front back (index : Int), 0 < index → index < Path.effectiveCount request.path →
        keep (.elements (front ++ index :: back)) =
          keep (.elements (front ++ (index - Path.effectiveCount request.path) :: back))) ∧
      (∀ list scope, scope = .parameter ∨ scope = .queryText → ∃ allowed,
        AllowList.make scope list = .ok allowed ∧
          (SmallNames (request.query.map Prod.fst) → (keep allowed).query =
            request.query.filter fun entry => AllowList.Lists list entry.1) ∧
          ∀ other, (∀ name, AllowList.Lists list name ↔ AllowList.Lists other name) → ∃ same,
            AllowList.make scope other = .ok same ∧ keep same = keep allowed) ∧
      ∀ list, ∃ allowed,
        AllowList.make .header list = .ok allowed ∧
          (SmallNames (request.headers.live.map Prod.fst) → (keep allowed).headers.live =
            request.headers.live.filter fun entry => AllowList.Lists list entry.1) ∧
          ∀ other, (∀ name, AllowList.Lists list name ↔ AllowList.Lists other name) → ∃ same,
            AllowList.make .header other = .ok same ∧ keep same = keep allowed := by
  intro keep
  have hkeep : ∀ list, keep list = request.keep list := fun list => rfl
  have helements {indices others : List Int} (h : Path.AddressAlike request.path indices others) :
      keep (.elements indices) = keep (.elements others) := by
    simp only [hkeep, Request.keep, h.keepPositions_eq]
  refine ⟨fun indices => ⟨Path.pairwise_keepPositions _ _, fun _ => Path.mem_keepPositions, ?_,
      Path.keepPositions_keepPositions _ _⟩, ?_, ?_, ?_, ?_, ?_⟩
  · rw [hkeep, ← Path.select_keepPositions]
    rfl
  · exact fun _ _ h => helements (Path.addressAlike_of_mem_iff h)
  · exact fun _ _ h => helements (Path.addressAlike_append h)
  · exact fun front back _ hpos hlt =>
      helements (Path.addressAlike_exchange (Path.resolve?_sub_effectiveCount hpos hlt).symm front back)
  · intro list scope hscope
    have hmake (list : Option String) : AllowList.make scope list =
        .ok (.parameters ((AllowList.listed list).map Text.lowerAscii)) := by
      obtain rfl | rfl := hscope <;> rfl
    refine ⟨_, hmake list, fun hsmall => ?_, fun other hsame => ⟨_, hmake other, ?_⟩⟩
    · rw [hkeep, query_keep_parameters, AllowList.filter_contains_listed hsmall]
    · exact (keep_names_eq request (AllowList.mem_listed_iff hsame)).1.symm
  · intro list
    refine ⟨_, rfl, fun hsmall => ?_, fun other hsame => ⟨_, rfl, ?_⟩⟩
    · rw [hkeep, headers_keep_headers, AllowList.filter_contains_listed hsmall]
    · exact (keep_names_eq request (AllowList.mem_listed_iff hsame)).2.symm

/-- A request with an empty segment inside its path, a parameter that was given twice, and two headers. -/
def mixed : Request := ((ofUrl "/a//b/c/?X=1&y&x=2&Z=3").withHeader "Host" "h").withHeader "Cookie" "k"

theorem keep_as_listed_mixed :
    let env : Env := ⟨.execute, "/www", .discard, fun _ => .ok .file⟩
    let keep (list : AllowList) := (Action.perform env (.keep list) mixed .start).request
    ((∀ index : Int, index ∈ [3, 1, 3] ↔ index ∈ [1, 3]) ∧ keep (.elements [3, 1, 3]) = keep (.elements [1, 3])) ∧
      ((∀ index ∈ [9, -7], ¬Path.Addresses mixed.path index) ∧
        keep (.elements [1, 3, 9, -7]) = keep (.elements [1, 3])) ∧
      ((0 : Int) < 3 ∧ (3 : Int) < Path.effectiveCount mixed.path ∧
        keep (.elements [1, 3]) = keep (.elements [1, -2])) ∧
      (keep (.elements [-2, 1])).path = ["", "a", "b"] ∧
      (SmallNames (mixed.query.map Prod.fst) ∧ SmallNames (mixed.headers.live.map Prod.fst)) ∧
      (∀ name, AllowList.Lists (some " z,X") name ↔ AllowList.Lists (some "x,Z,,z") name) ∧
      (∃ allowed same, AllowList.make .queryText (some " z,X") = .ok allowed ∧
        AllowList.make .queryText (some "x,Z,,z") = .ok same ∧ keep same = keep allowed ∧
        (keep allowed).query = [("x", ["1", "2"]), ("z", ["3"])]) ∧
      ∃ hosts, AllowList.make .header (some "HOST") = .ok hosts ∧ (keep hosts).headers.live = [("host", "h")] := by
  intro env keep
  obtain ⟨-, hmem, hadded, hcounted, hparameters, hheaders⟩ := keep_as_listed env mixed .start
  have hsmall : mixed.NamesSmall := (((Fresh.ofUrl _).withHeader "Host" "h").withHeader "Cookie" "k").namesSmall
  have hrepeated : ∀ index : Int, index ∈ [3, 1, 3] ↔ index ∈ [1, 3] := by simp [or_comm]
  have houtside : ∀ index ∈ ([9, -7] : List Int), ¬Path.Addresses mixed.path index := by decide
  have hinside : (0 : Int) < 3 ∧ 3 < (Path.effectiveCount mixed.path : Int) := by decide
  have hlisted : AllowList.listed (some " z,X") = ["z", "X"] ∧
      AllowList.listed (some "x,Z,,z") = ["x", "Z", "z"] := by decide
  have hletters : Text.lowerAscii "X" = Text.lowerAscii "x" ∧ Text.lowerAscii "Z" = Text.lowerAscii "z" := by decide
  have halike : ∀ name, AllowList.Lists (some " z,X") name ↔ AllowList.Lists (some "x,Z,,z") name := by
    intro name
    simp [AllowList.Lists, hlisted, hletters, or_comm]
  obtain ⟨allowed, hallowed, hquery, hsame⟩ := hparameters (some " z,X") .queryText (.inr rfl)
  obtain ⟨same, hmake, hkeep⟩ := hsame _ halike
  obtain ⟨hosts, hhosts, hlive, -⟩ := hheaders (some "HOST")
  refine ⟨⟨hrepeated, hmem _ _ hrepeated⟩, ⟨houtside, hadded [1, 3] [9, -7] houtside⟩,
    ⟨hinside.1, hinside.2, hcounted [1] [] 3 hinside.1 hinside.2⟩, by decide,
    ⟨hsmall.query, hsmall.headers.live⟩, halike,
    ⟨allowed, same, hallowed, hmake, hkeep, ?_⟩, ⟨hosts, hhosts, ?_⟩⟩
  · rw [hquery hsmall.query]
    decide +kernel
  · rw [hlive hsmall.headers.live]
    decide

end Request

end Reroute
