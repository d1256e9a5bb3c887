import Reroute.Proofs.Template.Braces
import Reroute.Proofs.Text.Basic
import Reroute.Template.Compile

/-!
# Expanding templates

What a template stands for is said without values: a template is expanded by going through its text, and the content of
braces by what it is headed by.  The value of a template reads as its expansion, on every request and with every
scratch.
-/

namespace Reroute

open Template (Balanced trimChars)

/-! ### The expansion -/

namespace Template

/-- A content with a colon that no brace stands before: what is in front of its first colon, and behind. -/
def Headed (content head rest : List Char) : Prop :=
  content = head ++ ':' :: rest ∧ ':' ∉ head ∧ '\x7b' ∉ head

/-- The header behind `HTTP_`, in any case of letters, with dashes for underscores. -/
def NamesHeader (name header : List Char) : Prop :=
  ∃ mark back, name = mark ++ '_' :: back ∧ mark.map Char.toUpper = ['H', 'T', 'T', 'P'] ∧
    header = back.map fun c => if c = '_' then '-' else c

end Template

open Template (Headed NamesHeader)

/-- A content is headed in one way. -/
private theorem Template.Headed.unique {content head rest other behind : List Char} (h : Headed content head rest)
    (h' : Headed content other behind) : head = other ∧ rest = behind := by
  have hcut := Text.cutChars?_eq_some.mpr ⟨h.1, h.2.1⟩
  rw [Text.cutChars?_eq_some.mpr ⟨h'.1, h'.2.1⟩] at hcut
  simpa [eq_comm] using hcut

/-- The operation of a name: a built-in one, else a lookup table, else an extension that needs no parameters. -/
inductive Names.Resolves (names : Names) (name : String) : Operation → Prop
  | builtin {operation : Operation} (h : Operation.builtin? name = some operation) : Resolves names name operation
  | table {entry : String × LookupTable} (hbuiltin : Operation.builtin? name = none)
      (h : names.tables.find? (fun entry => entry.1 == Text.lowerAscii name) = some entry) :
      Resolves names name (.table entry.2)
  | custom {build : Builder CustomOperation} {operation : CustomOperation}
      (hbuiltin : Operation.builtin? name = none)
      (htable : names.tables.find? (fun entry => entry.1 == Text.lowerAscii name) = none)
      (hbuild : names.registry.operations.find? name = some build) (h : build [] = .ok operation) :
      Resolves names name (.custom operation)

mutual

/-- The text that a template stands for. -/
inductive Expands (names : Names) (request : Request) (scratch : Scratch) : List Char → String → Prop
  | nil : Expands names request scratch [] ""
  | plain {c : Char} {rest : List Char} {text : String} (hc : c ≠ '\x7b')
      (hrest : Expands names request scratch rest text) :
      Expands names request scratch (c :: rest) (String.singleton c ++ text)
  | braces {content rest : List Char} {inner text : String} (hcontent : Balanced content)
      (hinner : ContentExpands names request scratch content inner)
      (hrest : Expands names request scratch rest text) :
      Expands names request scratch ('\x7b' :: content ++ '\x7d' :: rest) (inner ++ text)

/-- The text that the content of braces stands for. -/
inductive ContentExpands (names : Names) (request : Request) (scratch : Scratch) : List Char → String → Prop
  | capture {content head index : List Char} {key : CaptureKey} {group : Nat} (hhead : Headed content head index)
      (hkey : (trimChars head).map Char.toUpper = key.name.toList)
      (hgroup : Text.readNat? 64 (String.ofList (trimChars index)) = some group) :
      ContentExpands names request scratch content (scratch.capture key group)
  | operation {content head rest : List Char} {operation : Operation} {inner : String}
      (hhead : Headed content head rest)
      (hkey : ∀ key : CaptureKey, (trimChars head).map Char.toUpper ≠ key.name.toList)
      (hname : names.Resolves (String.ofList (trimChars head)) operation)
      (hrest : Expands names request scratch rest inner) :
      ContentExpands names request scratch content (operation.apply inner)
  | nested {content : List Char} {inner : String} (hhead : ∀ head rest, ¬Headed content head rest)
      (hbrace : '\x7b' ∈ content) (hinner : Expands names request scratch (trimChars content) inner) :
      ContentExpands names request scratch content inner
  | header {content header : List Char} (hhead : ∀ head rest, ¬Headed content head rest)
      (hbrace : '\x7b' ∉ content) (hname : NamesHeader (trimChars content) header) :
      ContentExpands names request scratch content ((request.headers.get? (String.ofList header)).getD "")
  | serverVariable {content : List Char} (hhead : ∀ head rest, ¬Headed content head rest)
      (hbrace : '\x7b' ∉ content) (hname : ∀ header, ¬NamesHeader (trimChars content) header) :
      ContentExpands names request scratch content
        ((request.serverVariables.get? (String.ofList (trimChars content))).getD "")

end

/-! ### Reading the expansion off -/

namespace Expands

variable {names : Names} {request : Request} {scratch : Scratch}

theorem nil_iff {text : String} : Expands names request scratch [] text ↔ text = "" := by
  constructor
  · intro h
    cases h
    rfl
  · rintro rfl
    exact .nil

private theorem cons_iff {c : Char} {rest : List Char} {text : String} (hc : c ≠ '\x7b') :
    Expands names request scratch (c :: rest) text ↔
      ∃ behind, Expands names request scratch rest behind ∧ text = String.singleton c ++ behind := by
  constructor
  · intro h
    cases h with
    | plain _ hrest => exact ⟨_, hrest, rfl⟩
    | braces => exact absurd rfl hc
  · rintro ⟨behind, hrest, rfl⟩
    exact .plain hc hrest

theorem append_iff {run rest : List Char} {text : String} (hrun : '\x7b' ∉ run) :
    Expands names request scratch (run ++ rest) text ↔
      ∃ behind, Expands names request scratch rest behind ∧ text = String.ofList run ++ behind := by
  induction run generalizing text with
  | nil => simp
  | cons c run ih =>
    obtain ⟨hc, hrun⟩ := List.ne_and_not_mem_of_not_mem_cons hrun
    have hsplit : String.ofList (c :: run) = String.singleton c ++ String.ofList run := by
      rw [String.singleton_eq_ofList, ← String.ofList_append]
      rfl
    rw [List.cons_append, cons_iff hc.symm, hsplit]
    simp only [ih hrun]
    constructor
    · rintro ⟨-, ⟨behind, hrest, rfl⟩, rfl⟩
      exact ⟨behind, hrest, (String.append_assoc ..).symm⟩
    · rintro ⟨behind, hrest, rfl⟩
      exact ⟨_, ⟨behind, hrest, rfl⟩, String.append_assoc ..⟩

/-- Braces are taken out of a text in one way. -/
theorem braces_iff {content rest : List Char} {text : String} (hcontent : Balanced content) :
    Expands names request scratch ('\x7b' :: content ++ '\x7d' :: rest) text ↔
      ∃ inner behind, ContentExpands names request scratch content inner ∧
        Expands names request scratch rest behind ∧ text = inner ++ behind := by
  constructor
  · intro h
    generalize hwhole : '\x7b' :: content ++ '\x7d' :: rest = whole at h
    cases h with
    | nil => cases hwhole
    | plain hc _ => exact absurd (List.cons.inj hwhole).1.symm hc
    | braces hother hinner hrest =>
      obtain ⟨rfl, rfl⟩ := hcontent.eq_of_append hother (List.cons.inj hwhole).2
      exact ⟨_, _, hinner, hrest, rfl⟩
  · rintro ⟨inner, behind, hinner, hrest, rfl⟩
    exact .braces hcontent hinner hrest

end Expands

namespace ContentExpands

variable {names : Names} {request : Request} {scratch : Scratch}

/-- What a content with a head stands for: a group, or an operation on what is behind the head. -/
theorem headed_iff {content head rest : List Char} {text : String} (h : Headed content head rest) :
    ContentExpands names request scratch content text ↔
      (∃ (key : CaptureKey) (group : Nat), (trimChars head).map Char.toUpper = key.name.toList ∧
        Text.readNat? 64 (String.ofList (trimChars rest)) = some group ∧ text = scratch.capture key group) ∨
      (∀ key : CaptureKey, (trimChars head).map Char.toUpper ≠ key.name.toList) ∧
        ∃ operation inner, names.Resolves (String.ofList (trimChars head)) operation ∧
          Expands names request scratch rest inner ∧ text = operation.apply inner := by
  constructor
  · intro hexpands
    cases hexpands with
    | capture hhead hkey hgroup =>
      obtain ⟨rfl, rfl⟩ := h.unique hhead
      exact .inl ⟨_, _, hkey, hgroup, rfl⟩
    | operation hhead hkey hname hrest =>
      obtain ⟨rfl, rfl⟩ := h.unique hhead
      exact .inr ⟨hkey, _, _, hname, hrest, rfl⟩
    | nested hhead _ _ | header hhead _ _ | serverVariable hhead _ _ => exact absurd h (hhead _ _)
  · rintro (⟨key, group, hkey, hgroup, rfl⟩ | ⟨hkey, operation, inner, hname, hrest, rfl⟩)
    · exact .capture h hkey hgroup
    · exact .operation h hkey hname hrest

/-- What a content without a head stands for: the template inside its braces, a header or a server variable. -/
theorem headless_iff {content : List Char} {text : String} (h : ∀ head rest, ¬Headed content head rest) :
    ContentExpands names request scratch content text ↔
      ('\x7b' ∈ content ∧ Expands names request scratch (trimChars content) text) ∨
      ('\x7b' ∉ content ∧
        ((∃ header, NamesHeader (trimChars content) header ∧
            text = (request.headers.get? (String.ofList header)).getD "") ∨
          (∀ header, ¬NamesHeader (trimChars content) header) ∧
            text = (request.serverVariables.get? (String.ofList (trimChars content))).getD "")) := by
  constructor
  · intro hexpands
    cases hexpands with
    | capture hhead _ _ | operation hhead _ _ _ => exact absurd hhead (h _ _)
    | nested _ hbrace hinner => exact .inl ⟨hbrace, hinner⟩
    | header _ hbrace hname => exact .inr ⟨hbrace, .inl ⟨_, hname, rfl⟩⟩
    | serverVariable _ hbrace hname => exact .inr ⟨hbrace, .inr ⟨hname, rfl⟩⟩
  · rintro (⟨hbrace, hinner⟩ | ⟨hbrace, ⟨header, hname, rfl⟩ | ⟨hname, rfl⟩⟩)
    · exact .nested h hbrace hinner
    · exact .header h hbrace hname
    · exact .serverVariable h hbrace hname

end ContentExpands

end Reroute
