/-!
Patterns for paths. `?` stands for one character, `*` for any run of characters, `**` for any number
of directories, and a class in brackets for one of its characters. Only `**` reaches across slashes.
-/

namespace InlineScript.Glob

/-- A member of a class. -/
inductive Member where
  | single (c : Char)
  | range (low high : Char)
deriving DecidableEq, Repr

/-- Letters in either case are the same. -/
def sameLetter (c d : Char) : Bool :=
  c.toLower == d.toLower

/-- Whether a character belongs to a member of a class. A range between two letters holds letters of
either case. -/
def Member.holds (c : Char) : Member → Bool
  | .single d => sameLetter c d
  | .range low high =>
      (low ≤ c && c ≤ high)
        || (low.isAlpha && high.isAlpha && c.toNat < 128
            && low.toLower ≤ c.toLower && c.toLower ≤ high.toLower)

inductive Token where
  | char (c : Char)
  | anyChar
  | anySequence
  | anyDirectories
  | within (members : List Member)
  | outside (members : List Member)
deriving DecidableEq, Repr

abbrev Pattern := List Token

/-- Why a text is no pattern, and where: a number of characters from its start. -/
inductive Fault where
  | tooManyStars (position : Nat)
  | starsInName (position : Nat)
  | badClass (position : Nat)
deriving DecidableEq, Repr

namespace Fault

def message (fault : Fault) : String :=
  let (position, cause) :=
    match fault with
    | tooManyStars position => (position, "wildcards are either regular `*` or recursive `**`")
    | starsInName position => (position, "recursive wildcards must form a single path component")
    | badClass position => (position, "invalid range pattern")
  "Pattern syntax error near position " ++ toString position ++ ": " ++ cause

end Fault

namespace Pattern

/-- The members a class is written with. -/
def members : List Char → List Member
  | low :: '-' :: high :: rest => .range low high :: members rest
  | c :: rest => .single c :: members rest
  | [] => []

/-- The class behind an opening bracket: its first character may be a closing bracket, the next one
ends it. The result has its members and what follows. -/
def classBody? : List Char → Option (List Char × List Char)
  | [] => none
  | first :: rest =>
      match rest.dropWhile (· != ']') with
      | [] => none
      | _ :: after => some (first :: rest.takeWhile (· != ']'), after)

/-- The class behind an opening bracket as a token, and what follows. -/
def class? (text : List Char) : Option (Token × List Char) :=
  match text with
  | '!' :: rest => (classBody? rest).map fun (body, after) => (.outside (members body), after)
  | _ => (classBody? text).map fun (body, after) => (.within (members body), after)

theorem classBody?_length {text body after : List Char}
    (found : classBody? text = some (body, after)) : after.length < text.length := by
  cases text with
  | nil => simp [classBody?] at found
  | cons first rest =>
      have shorter : (rest.dropWhile (· != ']')).length ≤ rest.length :=
        (List.dropWhile_sublist _).length_le
      simp only [classBody?] at found
      split at found
      next => contradiction
      next head tail remaining =>
        rw [remaining] at shorter
        simp only [Option.some.injEq, Prod.mk.injEq] at found
        rw [← found.2]
        simp only [List.length_cons] at shorter ⊢
        omega

theorem class?_length {text after : List Char} {token : Token}
    (found : class? text = some (token, after)) : after.length < text.length := by
  unfold class? at found
  split at found
  next rest =>
    obtain ⟨⟨body, last⟩, inner, same⟩ := Option.map_eq_some_iff.mp found
    simp only [Prod.mk.injEq] at same
    have bound := classBody?_length inner
    rw [← same.2]
    simp only [List.length_cons]
    omega
  next =>
    obtain ⟨⟨body, last⟩, inner, same⟩ := Option.map_eq_some_iff.mp found
    simp only [Prod.mk.injEq] at same
    have bound := classBody?_length inner
    rw [← same.2]
    exact bound

/-- Reads a pattern from the given position on; `fresh` tells whether a path component may start
there. -/
def parseFrom (position : Nat) (fresh : Bool) (text : List Char) : Except Fault Pattern :=
  match text with
  | [] => .ok []
  | '?' :: rest => do return .anyChar :: (← parseFrom (position + 1) false rest)
  | '*' :: '*' :: '*' :: _ => .error (.tooManyStars (position + 2))
  | '*' :: '*' :: rest =>
      if fresh then
        match rest with
        | [] => .ok [.anyDirectories]
        | '/' :: rest => do return .anyDirectories :: (← parseFrom (position + 3) true rest)
        | _ => .error (.starsInName (position + 2))
      else
        .error (.starsInName (position - 1))
  | '*' :: rest => do return .anySequence :: (← parseFrom (position + 1) false rest)
  | '[' :: rest =>
      match _found : class? rest with
      | none => .error (.badClass position)
      | some (token, after) => do
          return token :: (← parseFrom (position + 1 + (rest.length - after.length)) false after)
  | c :: rest => do return .char c :: (← parseFrom (position + 1) (c == '/') rest)
termination_by text.length
decreasing_by
  all_goals simp only [List.length_cons]
  all_goals first
    | (have bound := class?_length _found; omega)
    | omega

/-- The pattern a text stands for. -/
def parse (text : List Char) : Except Fault Pattern :=
  parseFrom 0 true text

/-- Whether some way to cut off a run without slashes leaves a text that `accepts`. -/
def afterRun (accepts : List Char → Bool) : List Char → Bool
  | [] => accepts []
  | c :: rest => accepts (c :: rest) || (c != '/' && afterRun accepts rest)

/-- Whether what follows some slash is a text that `accepts`. -/
def afterSlash (accepts : List Char → Bool) : List Char → Bool
  | [] => false
  | c :: rest => (c == '/' && accepts rest) || afterSlash accepts rest

/-- Whether the pattern stands for the whole text. -/
def matchesText : Pattern → List Char → Bool
  | [], text => text.isEmpty
  | .char _ :: _, [] => false
  | .char c :: rest, d :: text => sameLetter c d && matchesText rest text
  | .anyChar :: _, [] => false
  | .anyChar :: rest, d :: text => d != '/' && matchesText rest text
  | .within _ :: _, [] => false
  | .within members :: rest, d :: text =>
      d != '/' && members.any (Member.holds d) && matchesText rest text
  | .outside _ :: _, [] => false
  | .outside members :: rest, d :: text =>
      d != '/' && !members.any (Member.holds d) && matchesText rest text
  | .anySequence :: rest, text => afterRun (matchesText rest) text
  | .anyDirectories :: rest, text =>
      rest.isEmpty || matchesText rest text || afterSlash (matchesText rest) text

/-! ## Matching all suffixes at once

Trying every run of every star takes exponential time. The suffixes of a text are few, so for each
token one row of marks, a mark for each suffix, says all there is to know. -/

/-- What is left of a text after any number of its characters, longest first. -/
def suffixes : List Char → List (List Char)
  | [] => [[]]
  | c :: rest => (c :: rest) :: suffixes rest

/-- Marks the suffixes whose first character `fits` and whose rest is marked. -/
def markChar (fits : Char → Bool) : List Char → List Bool → List Bool
  | c :: text, _ :: marks => (fits c && marks.headD false) :: markChar fits text marks
  | _, _ => [false]

/-- Marks the suffixes that some run without slashes leads to a marked one. -/
def markRun : List Char → List Bool → List Bool
  | c :: text, mark :: marks =>
      let later := markRun text marks
      (mark || (c != '/' && later.headD false)) :: later
  | _, marks => marks

/-- Marks the suffixes in which a marked one follows some slash. -/
def markSlash : List Char → List Bool → List Bool
  | c :: text, _ :: marks =>
      let later := markSlash text marks
      ((c == '/' && marks.headD false) || later.headD false) :: later
  | _, _ => [false]

/-- The suffixes of a text that the pattern stands for. -/
def marks (text : List Char) : Pattern → List Bool
  | [] => (suffixes text).map List.isEmpty
  | .char c :: rest => markChar (sameLetter c) text (marks text rest)
  | .anyChar :: rest => markChar (· != '/') text (marks text rest)
  | .within members :: rest =>
      markChar (fun d => d != '/' && members.any (Member.holds d)) text (marks text rest)
  | .outside members :: rest =>
      markChar (fun d => d != '/' && !members.any (Member.holds d)) text (marks text rest)
  | .anySequence :: rest => markRun text (marks text rest)
  | .anyDirectories :: rest =>
      let later := marks text rest
      if rest.isEmpty then later.map fun _ => true
      else List.zipWith (· || ·) later (markSlash text later)

/-- Whether the pattern stands for the whole text, found by marks. -/
def accepts (pattern : Pattern) (text : List Char) : Bool :=
  (marks text pattern).headD false

theorem suffixes_head (text : List Char) : ∃ rest, suffixes text = text :: rest := by
  cases text with
  | nil => exact ⟨[], rfl⟩
  | cons c tail => exact ⟨suffixes tail, rfl⟩

theorem headD_suffixes (test : List Char → Bool) (text : List Char) :
    ((suffixes text).map test).headD false = test text := by
  obtain ⟨rest, same⟩ := suffixes_head text
  simp [same]

theorem markChar_suffixes (fits : Char → Bool) (test : List Char → Bool) (text : List Char) :
    markChar fits text ((suffixes text).map test)
      = (suffixes text).map fun suffix =>
          match suffix with
          | [] => false
          | c :: rest => fits c && test rest := by
  induction text with
  | nil => rfl
  | cons c text induction =>
      simp only [suffixes, List.map_cons, markChar, headD_suffixes, induction]

theorem markRun_suffixes (test : List Char → Bool) (text : List Char) :
    markRun text ((suffixes text).map test) = (suffixes text).map (afterRun test) := by
  induction text with
  | nil => rfl
  | cons c text induction =>
      simp only [suffixes, List.map_cons, markRun, headD_suffixes, induction, afterRun]

theorem markSlash_suffixes (test : List Char → Bool) (text : List Char) :
    markSlash text ((suffixes text).map test) = (suffixes text).map (afterSlash test) := by
  induction text with
  | nil => rfl
  | cons c text induction =>
      simp only [suffixes, List.map_cons, markSlash, headD_suffixes, induction, afterSlash]

/-- The marks of a pattern say of each suffix whether the pattern stands for it. -/
theorem marks_eq_map_matchesText (text : List Char) (pattern : Pattern) :
    marks text pattern = (suffixes text).map pattern.matchesText := by
  induction pattern with
  | nil => simp only [marks, matchesText]
  | cons token rest induction =>
      cases token with
      | char c =>
          simp only [marks, induction, markChar_suffixes]
          refine List.map_congr_left fun suffix _ => ?_
          cases suffix <;> simp only [matchesText]
      | anyChar =>
          simp only [marks, induction, markChar_suffixes]
          refine List.map_congr_left fun suffix _ => ?_
          cases suffix <;> simp only [matchesText]
      | within members =>
          simp only [marks, induction, markChar_suffixes]
          refine List.map_congr_left fun suffix _ => ?_
          cases suffix <;> simp only [matchesText]
      | outside members =>
          simp only [marks, induction, markChar_suffixes]
          refine List.map_congr_left fun suffix _ => ?_
          cases suffix <;> simp only [matchesText]
      | anySequence =>
          simp only [marks, induction, markRun_suffixes]
          refine List.map_congr_left fun suffix _ => ?_
          cases suffix <;> simp only [matchesText]
      | anyDirectories =>
          simp only [marks, induction, markSlash_suffixes]
          split
          next last =>
            simp only [List.map_map]
            refine List.map_congr_left fun suffix _ => ?_
            cases suffix <;> simp [matchesText, last]
          next more =>
            simp only [List.zipWith_map, List.zipWith_self]
            refine List.map_congr_left fun suffix _ => ?_
            cases suffix <;> simp [matchesText, more]

theorem accepts_eq_matchesText (pattern : Pattern) (text : List Char) :
    pattern.accepts text = pattern.matchesText text := by
  simp only [accepts, marks_eq_map_matchesText, headD_suffixes]

end Pattern

end InlineScript.Glob
