import Mathlib.Data.List.DropRight
import Reroute.Condition.FileMatch
import Reroute.Proofs.Text.Basic

/-!
# Paths and the document root

Where a path leads is found out from its text: a dot stays, two dots go up, and every other name goes down.  What a
file match looks up leads where the names of its text lead from the document root (`FileMatch.resolved_resolve`).
Names in a row amount to some steps up and then some names down (`FilePath.Detour`), so the path leads to the root or
below if and only if the names down make good for the steps up (`FileMatch.encloses_lookup_iff`).  A text that goes
further up than down leads out of the root.
-/

namespace Reroute

/-! ### Paths as text -/

namespace FilePath

/-- One name further along a path. -/
def enter (here : List String) (name : String) : List String :=
  if name = "" ∨ name = "." then here else if name = ".." then here.dropLast else here ++ [name]

/-- The names from the root of the file system at which an absolute path ends. -/
def resolved (path : String) : List String := (Text.split '/' path).foldl enter []

/-- The second path ends where the first does, or below. -/
def Encloses (root path : String) : Prop := resolved root <+: resolved path

instance (root path : String) : Decidable (Encloses root path) :=
  inferInstanceAs (Decidable (resolved root <+: resolved path))

variable (here : List String)

/-- Empty names and dots lead nowhere. -/
private theorem foldl_enter_filter (names : List String) :
    (names.filter fun name => name != "" && name != ".").foldl enter here = names.foldl enter here := by
  induction names generalizing here with
  | nil => rfl
  | cons name names ih =>
    rw [List.foldl_cons, ← ih, List.filter_cons]
    split
    · rfl
    · rename_i hdropped
      have hname : name = "" ∨ name = "." := by
        simpa [or_iff_not_imp_left] using hdropped
      rw [enter, if_pos hname]

/-- Slashes in front of a text lead nowhere. -/
private theorem foldl_enter_trimStart (text : String) :
    (Text.split '/' (Text.trimStartBy (· == '/') text)).foldl enter here = (Text.split '/' text).foldl enter here := by
  simp only [Text.split, Text.trimStartBy, String.toList_ofList]
  induction text.toList with
  | nil => rfl
  | cons c cs ih =>
    rw [List.dropWhile_cons]
    split
    · rename_i hc
      obtain rfl : c = '/' := by simpa using hc
      simpa [Text.splitChars, enter] using ih
    · rfl

/-- A text behind a path leads on from where the path ends. -/
private theorem resolved_append (root text : String) :
    resolved (append root text) = (Text.split '/' text).foldl enter (resolved root) := by
  have hslash : "/".toList = ['/'] := rfl
  unfold append
  split
  · rename_i hroot
    obtain rfl | hlast := hroot
    · rw [String.empty_append]
      rfl
    · obtain ⟨front, hfront⟩ := Text.exists_eq_append_of_getLast? hslash hlast
      have hlong : root ++ text = front ++ "/" ++ text := by rw [hfront, String.append_empty]
      rw [hlong, hfront, resolved, resolved, Text.split_append hslash, Text.split_append hslash, List.foldl_append,
        List.foldl_append]
      rfl
  · rw [resolved, resolved, Text.split_append hslash, List.foldl_append]

/-- The parts of an absolute path are the slash and the names that lead to its end. -/
private theorem parts_of_isAbsolute {path : String} (h : isAbsolute path) :
    ∃ names, parts path = "/" :: names ∧ resolved path = names.foldl enter [] := by
  obtain ⟨cs, hpath⟩ : ∃ cs, path.toList = '/' :: cs := by
    have hhead : path.toList.head? = some '/' := by simpa [isAbsolute] using h
    exact List.head?_eq_some_iff.mp hhead
  have hsplit : Text.split '/' path = "" :: (Text.splitChars '/' cs).map String.ofList := by
    simp [Text.split, hpath, Text.splitChars]
  have hne : (Text.splitChars '/' cs).map String.ofList ≠ [] := by
    simpa [Text.split] using Text.split_ne_nil '/' (String.ofList cs)
  refine ⟨((Text.splitChars '/' cs).map String.ofList).filter fun name => name != "" && name != ".", ?_, ?_⟩
  · simp only [parts, hsplit, List.isEmpty_eq_false_iff.mpr hne]
    rfl
  · rw [resolved, hsplit, foldl_enter_filter]
    rfl

/-- A path that begins with the parts of another leads on from where that one ends. -/
private theorem resolved_of_isBelow {root path : String} (hroot : isAbsolute root) (hpath : isAbsolute path)
    (hbelow : isBelow root path) :
    resolved path = ((parts path).drop (parts root).length).foldl enter (resolved root) := by
  obtain ⟨rootNames, hrootParts, hrootEnd⟩ := parts_of_isAbsolute hroot
  obtain ⟨names, hparts, hend⟩ := parts_of_isAbsolute hpath
  obtain ⟨rest, hrest⟩ : parts root <+: parts path := List.isPrefixOf_iff_prefix.mp hbelow
  have hnames : names = rootNames ++ rest := by
    rw [hrootParts, hparts, List.cons_append] at hrest
    exact (List.cons.inj hrest).2.symm
  rw [hend, hrootEnd, ← hrest, List.drop_left, hnames, List.foldl_append]

/-! ### Steps up and names down -/

/-- Steps up, and then names down. -/
structure Detour where
  up : Nat
  down : List String
deriving DecidableEq, Repr

namespace Detour

/-- The detour with one more name. -/
def enter (way : Detour) (name : String) : Detour :=
  if name = "" ∨ name = "." then way
  else if name = ".." then if way.down = [] then ⟨way.up + 1, []⟩ else ⟨way.up, way.down.dropLast⟩
  else ⟨way.up, way.down ++ [name]⟩

/-- What names in a row amount to. -/
def ofNames (names : List String) : Detour := names.foldl enter ⟨0, []⟩

/-- Where the detour leads from some names. -/
def followed (way : Detour) (here : List String) : List String := here.rdrop way.up ++ way.down

/-- The names down begin with all that the steps up have left. -/
def MakesGood (way : Detour) (here : List String) : Prop := here.rtake way.up <+: way.down

instance (way : Detour) (here : List String) : Decidable (way.MakesGood here) :=
  inferInstanceAs (Decidable (here.rtake way.up <+: way.down))

private theorem enter_followed (way : Detour) (here : List String) (name : String) :
    FilePath.enter (way.followed here) name = (way.enter name).followed here := by
  simp only [FilePath.enter, enter]
  split
  · rfl
  split
  · split
    · rename_i hdown
      rw [followed, hdown, List.append_nil, followed, List.append_nil, ← List.rdrop_add]
      simp [List.rdrop, List.dropLast_eq_take]
    · rename_i hdown
      rw [followed, List.dropLast_append_of_ne_nil hdown, followed]
  · simp [followed]

/-- Names in a row lead where their detour does. -/
theorem foldl_enter (names here : List String) : names.foldl FilePath.enter here = (ofNames names).followed here := by
  have hstart : here = (Detour.mk 0 []).followed here := by simp [followed]
  conv_lhs => rw [hstart]
  exact List.foldl_hom (fun way : Detour => way.followed here) fun way name => way.enter_followed here name

theorem isPrefix_followed_iff {way : Detour} : here <+: way.followed here ↔ way.MakesGood here := by
  have hparts : here.rdrop way.up ++ here.rtake way.up = here := List.take_append_drop _ here
  conv_lhs => lhs; rw [← hparts]
  exact List.prefix_append_right_inj _

end Detour

end FilePath

/-! ### What is looked up -/

namespace FileMatch

open FilePath (Detour Encloses resolved)

/-- The names of a text that are walked from the document root. -/
def namesInside (documentRoot text : String) : List String :=
  if FilePath.isAbsolute text && FilePath.isBelow documentRoot text then
    (FilePath.parts text).drop (FilePath.parts documentRoot).length
  else Text.split '/' text

/-- The path that a text names ends where its names lead from the document root. -/
theorem resolved_resolve {documentRoot : String} (h : FilePath.isAbsolute documentRoot) (text : String) :
    resolved (resolve documentRoot text) =
      (namesInside documentRoot text).foldl FilePath.enter (resolved documentRoot) := by
  unfold resolve namesInside
  split
  · rename_i hinside
    obtain ⟨habsolute, hbelow⟩ := (Bool.and_eq_true _ _).mp hinside
    exact FilePath.resolved_of_isBelow h habsolute hbelow
  · rw [FilePath.resolved_append, FilePath.foldl_enter_trimStart]

/-- A file match looks up one path. -/
private theorem paths_test (m : FileMatch) (env : Env) (request : Request) (scratch : Scratch) :
    Note.paths (m.test env request scratch).2 = [resolve env.documentRoot (m.value.read request scratch)] := by
  simp only [test]
  split <;> rfl

/-- A file match asks about one path only, and that path ends at the document root or below if and only if the names
of the text behind the root make good for their steps up; a text without steps out of the root always does. -/
theorem encloses_lookup_iff (m : FileMatch) (env : Env) (request : Request) (scratch : Scratch)
    (h : FilePath.isAbsolute env.documentRoot) :
    let text := m.value.read request scratch
    let path := resolve env.documentRoot text
    let way := Detour.ofNames (namesInside env.documentRoot text)
    Note.paths (m.test env request scratch).2 = [path] ∧
      (∀ probe, probe path = env.probe path →
        m.test { env with probe := probe } request scratch = m.test env request scratch) ∧
      resolved path = way.followed (resolved env.documentRoot) ∧
      (Encloses env.documentRoot path ↔ way.MakesGood (resolved env.documentRoot)) ∧
      (way.up = 0 → Encloses env.documentRoot path) := by
  intro text path way
  have hend : resolved path = way.followed (resolved env.documentRoot) := by
    rw [resolved_resolve h, Detour.foldl_enter]
  have hiff : Encloses env.documentRoot path ↔ way.MakesGood (resolved env.documentRoot) := by
    rw [Encloses, hend, Detour.isPrefix_followed_iff]
  refine ⟨m.paths_test env request scratch, ?_, hend, hiff, ?_⟩
  · intro probe hprobe
    simp only [test]
    rw [hprobe]
  · intro hup
    rw [hiff, Detour.MakesGood, hup, List.rtake_zero]
    exact List.nil_prefix

/-- A question about the path of a request. -/
def aboutPath : FileMatch := ⟨.getter ⟨.path, .nothing, []⟩, .isFile, false⟩

/-- A server of the files below `/srv/www`. -/
def serving : Env := ⟨.execute, "/srv/www", .discard, fun _ => .ok .file⟩

/-- A path that leaves the document root and comes back to it. -/
theorem encloses_lookup_iff_returning :
    FilePath.isAbsolute serving.documentRoot ∧
      Note.paths (aboutPath.test serving (.ofUrl "/img/../../www/./logo.png?x=1") .start).2 =
        ["/srv/www/img/../../www/./logo.png"] ∧
      resolved "/srv/www/img/../../www/./logo.png" = ["srv", "www", "logo.png"] ∧
      Encloses serving.documentRoot "/srv/www/img/../../www/./logo.png" := by
  have hroot : FilePath.isAbsolute serving.documentRoot := by decide
  obtain ⟨hpaths, -, -, hiff, -⟩ :=
    encloses_lookup_iff aboutPath serving (.ofUrl "/img/../../www/./logo.png?x=1") .start hroot
  have hpath : resolve serving.documentRoot (aboutPath.value.read (.ofUrl "/img/../../www/./logo.png?x=1") .start) =
      "/srv/www/img/../../www/./logo.png" := by decide
  rw [hpath] at hpaths hiff
  exact ⟨hroot, hpaths, by decide, hiff.mpr (by decide)⟩

/-- A request leads a file match out of the document root. -/
theorem lookup_outside :
    let request := Request.ofUrl "/../../etc/passwd"
    FilePath.isAbsolute serving.documentRoot ∧
      (∀ name ∈ Text.split '/' serving.documentRoot, name ≠ "." ∧ name ≠ "..") ∧
      ∃ path ∈ Note.paths (aboutPath.test serving request .start).2,
        resolved path = ["etc", "passwd"] ∧ ¬Encloses serving.documentRoot path := by
  refine ⟨by decide, by decide, "/srv/www/../../etc/passwd", by decide, by decide, by decide⟩

end FileMatch

end Reroute
