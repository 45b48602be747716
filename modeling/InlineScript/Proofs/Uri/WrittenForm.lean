import InlineScript.Proofs.Uri.Machine

/-!
The written form of a URI tells its path. Open documents are kept by the written forms of their URIs,
so it has to: two URIs that are written in the same way name the same document.
-/

namespace InlineScript.Uri

/-! ## Cutting a text -/

/-- A text is cut in one way only before the first of some characters. -/
theorem Lacks.cut_eq {chars front rest otherFront otherRest : List Char}
    (lacks : Lacks chars front) (stops : ∀ first ∈ rest.head?, first ∈ chars)
    (otherLacks : Lacks chars otherFront) (otherStops : ∀ first ∈ otherRest.head?, first ∈ chars)
    (same : front ++ rest = otherFront ++ otherRest) : front = otherFront ∧ rest = otherRest := by
  have cut {front rest : List Char} (lacks : Lacks chars front)
      (stops : ∀ first ∈ rest.head?, first ∈ chars) :
      (front ++ rest).takeWhile (!chars.contains ·) = front := by
    rw [List.takeWhile_append_of_pos (by simpa [Lacks] using lacks)]
    cases rest with
    | nil => simp
    | cons first others => simp [stops first rfl]
  have fronts : front = otherFront := by
    rw [← cut lacks stops, same, cut otherLacks otherStops]
  subst fronts
  exact ⟨rfl, List.append_cancel_left same⟩

/-! ## Authorities -/

/-- The number of a machine with its colon. -/
def writtenPort (number : Option Nat) : List Char :=
  number.elim [] fun number => ':' :: (toString number).toList

theorem writtenPort_lacks (number : Option Nat) : Lacks ('[' :: ends) (writtenPort number) := by
  cases number with
  | none => exact Lacks.nil
  | some number =>
      exact ((lacks_toString number).fewer (by decide)).cons (by decide)

theorem head?_writtenPort (number : Option Nat) :
    ∀ first ∈ (writtenPort number).head?, first ∈ [':'] := by
  cases number <;> simp [writtenPort]

section

variable {authority other : Authority}

/-- What follows the user of an authority. -/
def behindUser (authority : Authority) : List Char :=
  authority.host ++ writtenPort authority.portNumber

theorem behindUser_lacks (written : IsAuthority authority) : Lacks ends (behindUser authority) :=
  written.machine.lacks.append ((writtenPort_lacks _).fewer (by decide))

theorem render_authority (authority : Authority) :
    authority.render =
      if authority.user.isEmpty then behindUser authority
      else authority.user ++ '@' :: behindUser authority := by
  unfold Authority.render behindUser writtenPort
  split <;> simp

theorem render_authority_lacks (written : IsAuthority authority) :
    Lacks ['/', '?', '#'] authority.render := by
  have machine := (behindUser_lacks written).fewer (by decide : ['/', '?', '#'] ⊆ ends)
  rw [render_authority]
  split
  · exact machine
  · exact (written.user.fewer (by decide)).append
      (machine.cons (by decide))

/-- The user of an authority can be told from the machine. -/
theorem behindUser_congr (written : IsAuthority authority) (otherWritten : IsAuthority other)
    (same : authority.render = other.render) : behindUser authority = behindUser other := by
  have user := written.user.fewer (by decide : ['@'] ⊆ ends)
  have otherUser := otherWritten.user.fewer (by decide : ['@'] ⊆ ends)
  have machine := (behindUser_lacks written).fewer (by decide : ['@'] ⊆ ends)
  have otherMachine := (behindUser_lacks otherWritten).fewer (by decide : ['@'] ⊆ ends)
  rw [render_authority, render_authority] at same
  split at same <;> split at same
  · exact same
  · rw [← List.append_nil (behindUser authority)] at same
    have cut := machine.cut_eq (by simp) otherUser (by simp) same
    exact absurd cut.2 (by simp)
  · rw [← List.append_nil (behindUser other)] at same
    have cut := user.cut_eq (by simp) otherMachine (by simp) same
    exact absurd cut.2 (by simp)
  · have cut := user.cut_eq (by simp) otherUser (by simp) same
    exact (List.cons.inj cut.2).2

/-- A machine without brackets and colons can be told from the rest of its authority. -/
theorem host_congr (written : IsAuthority authority) (otherWritten : IsAuthority other)
    (same : authority.render = other.render) (plain : Lacks [':', '['] authority.host) :
    other.host = authority.host := by
  have machines := behindUser_congr written otherWritten same
  have noBracket : '[' ∉ behindUser authority := by
    intro member
    rcases List.mem_append.mp member with inHost | inPort
    · exact plain '[' inHost (by decide)
    · exact writtenPort_lacks _ '[' inPort (by decide)
  have otherNoColon : Lacks [':'] other.host := by
    rcases otherWritten.machine.colons with bracket | noColon
    · refine absurd ?_ noBracket
      rw [machines]
      exact List.mem_append_left _ (List.mem_of_head? bracket)
    · exact fun char member isColon => noColon (List.mem_singleton.mp isColon ▸ member)
  have cut := otherNoColon.cut_eq (head?_writtenPort _) (plain.fewer (by decide))
    (head?_writtenPort _) machines.symm
  exact cut.1

end

/-! ## Places -/

/-- A place as it is read. Only behind a machine can a path be empty, and without one there is no dot
behind the first slash. -/
structure IsPlace (place : UriPlace) : Prop where
  path : Lacks ['?', '#'] place.path
  machine : ∀ authority ∈ place.authority,
    IsAuthority authority ∧ (place.path ≠ [] → place.path.head? = some '/')
  dotless : place.authority = none → ¬ ['/', '.', '/'] <+: place.path

theorem isAuthority_of_host {host : List Char} (machine : IsMachine host) :
    IsAuthority { noMachine with host } where
  user := Lacks.nil
  machine := machine

theorem isMachine_nil : IsMachine [] :=
  isMachine_of_lacks Lacks.nil

theorem isPlace_localPlace {front : List Char} (lacks : Lacks ['?', '#'] front) (text : List Char) :
    IsPlace (localPlace front text) where
  path := lacks_readPath .file lacks text
  machine := by
    intro authority member
    cases member
    exact ⟨isAuthority_of_host isMachine_nil, fun _ => head?_readPath_file front text⟩
  dotless none := nomatch none

theorem isPlace_readPathAfterHost {authority : Authority} (written : IsAuthority authority)
    (kind : SchemeKind) (text : List Char) :
    IsPlace ⟨some authority, (readPathAfterHost kind text).text⟩ where
  path := lacks_readPathAfterHost kind text
  machine := by
    intro other member
    cases member
    exact ⟨written, head?_readPathAfterHost kind text⟩
  dotless none := nomatch none

theorem isPlace_hostedPlace {text : List Char} {found : UriPlace}
    (read : hostedPlace text = .ok found) : IsPlace found := by
  have slash : Lacks ['?', '#'] ['/'] := by decide
  unfold hostedPlace at read
  dsimp only at read
  split at read
  · cases read
    exact isPlace_localPlace slash _
  · split at read
    · obtain ⟨host, hostRead, placed⟩ := ok_of_bind read
      cases hostRead
      rw [List.isEmpty_nil, Bool.true_or, if_pos rfl] at placed
      cases placed
      exact isPlace_localPlace slash _
    · obtain ⟨host, hostRead, placed⟩ := ok_of_bind read
      split at placed
      · cases placed
        exact isPlace_localPlace slash _
      · cases placed
        refine isPlace_readPathAfterHost (isAuthority_of_host ?_) .file _
        split
        · exact isMachine_nil
        · exact isMachine_namedHost hostRead

theorem isPlace_filePlace {text : List Char} {found : UriPlace}
    (read : filePlace text = .ok found) : IsPlace found := by
  have slash : Lacks ['?', '#'] ['/'] := by decide
  unfold filePlace at read
  split at read
  · split at read
    · split at read
      · split at read
        · exact isPlace_hostedPlace read
        · cases read
          exact isPlace_localPlace Lacks.nil _
      · cases read
        exact isPlace_localPlace Lacks.nil _
    · cases read
      exact isPlace_localPlace slash _
  · cases read
    exact isPlace_localPlace slash _

theorem isPlace_namedPlace {kind : SchemeKind} {scheme text : List Char} {followed : Bool}
    {found : UriPlace} (read : namedPlace kind scheme followed text = .ok found) :
    IsPlace found := by
  obtain ⟨⟨authority, tail⟩, authorityRead, made⟩ := ok_of_bind read
  cases made
  exact isPlace_readPathAfterHost (isAuthority_readAuthority authorityRead) kind tail

theorem solid_dropWhile (text : List Char) : solid (text.dropWhile isBreak) = solid text := by
  induction text with
  | nil => rfl
  | cons char rest ih =>
      rw [List.dropWhile_cons]
      split
      · rename_i breaks
        rw [ih, solid, solid, List.filter_cons_of_neg (by simp [breaks])]
      · rfl

/-- A path that is not divided does not start with a slash. -/
theorem head?_escape_solid {text : List Char} (undivided : afterChar? '/' text = none) :
    (escape isPrintable (solid text)).head? ≠ some '/' := by
  unfold afterChar? at undivided
  rw [← solid_dropWhile]
  split at undivided
  · rename_i empty
    rw [empty]
    simp [solid, escape]
  · rename_i first rest counted
    have other : first ≠ '/' := by
      intro slash
      simp [slash] at undivided
    have notBreak : isBreak first = false := by
      have stops := List.head_dropWhile_not isBreak (l := text) (by rw [counted]; simp)
      simpa [counted] using stops
    rw [counted, solid, List.filter_cons_of_pos (by simp [notBreak]), escape, List.flatMap_cons,
      List.head?_append]
    split
    · simp [other]
    · obtain ⟨byte, more, bytes⟩ :=
        List.exists_cons_of_ne_nil (String.utf8EncodeChar_ne_nil (c := first))
      simp [Text.Utf8.encode, bytes, escapeByte]

theorem isPlace_place {kind : SchemeKind} {scheme text : List Char} {followed : Bool}
    {found : UriPlace} (lacks : Lacks ['?', '#'] text)
    (read : place kind scheme followed text = .ok found) : IsPlace found := by
  cases kind with
  | file => exact isPlace_filePlace read
  | network => exact isPlace_namedPlace read
  | other =>
      unfold place at read
      dsimp only at read
      split at read
      · rename_i undivided
        cases read
        refine ⟨?_, fun _ member => (nomatch member), fun _ dotted => ?_⟩
        · exact escape_lacks (by decide) fun char member _ =>
            lacks char (List.mem_filter.mp member).1
        · exact head?_escape_solid undivided (head?_of_isPrefix dotted (by simp)).symm
      · split at read
        · exact isPlace_namedPlace read
        · rename_i rest _ _ _
          cases read
          have notFile : SchemeKind.other ≠ .file := by decide
          exact ⟨lacks_readPath .other (by decide) rest, fun _ member => (nomatch member),
            fun _ => (opens_readPath notFile rest).dotless⟩

/-! ## URIs -/

/-- A URI in the form in which URIs are read. -/
structure IsWritten (uri : Uri) : Prop where
  scheme : Lacks [':'] uri.scheme
  place : IsPlace ⟨uri.authority, uri.rawPath⟩

theorem toLower_ne_colon {char : Char} (other : char ≠ ':') : char.toLower ≠ ':' := by
  unfold Char.toLower
  split
  · rename_i large
    intro same
    have values := congrArg (·.val.toNat) same
    have lower : 65 ≤ char.val.toNat := large.1
    have upper : char.val.toNat ≤ 90 := large.2
    change (char.val.toNat + 32) % 4294967296 = 58 at values
    omega
  · exact other

theorem scheme?_lacks {text scheme rest : List Char} (read : scheme? text = some (scheme, rest)) :
    Lacks [':'] scheme := by
  unfold scheme? at read
  split at read
  · rename_i name _ cut
    have uncolored : ∀ char ∈ solid name, char ≠ ':' := by
      intro char member
      have inName : char ∈ text.takeWhile (!· == ':') := by
        have front := congrArg Prod.fst cut
        dsimp only [cutWhere] at front
        rw [front]
        exact (List.mem_filter.mp member).1
      have kept := List.all_eq_true.mp List.all_takeWhile char inName
      simpa using kept
    split at read
    · rename_i first others solidName
      split at read
      · cases read
        rw [← solidName]
        intro char member isColon
        obtain ⟨source, inName, rfl⟩ := List.mem_map.mp member
        exact toLower_ne_colon (uncolored source inName) (List.mem_singleton.mp isColon)
      · contradiction
    · contradiction
  · contradiction

/-- A URI that some text is. -/
def IsRead (uri : Uri) : Prop :=
  ∃ text, read? text = some uri

theorem IsRead.isWritten {uri : Uri} (isRead : IsRead uri) : IsWritten uri := by
  obtain ⟨text, found⟩ := isRead
  have ok : read text = .ok uri := by
    unfold read? at found
    cases result : read text with
    | error fault => rw [result] at found; contradiction
    | ok other => rw [result] at found; cases found; rfl
  unfold read at ok
  split at ok
  · contradiction
  · rename_i scheme rest schemeRead
    obtain ⟨place, placeRead, made⟩ := ok_of_bind ok
    cases made
    refine ⟨scheme?_lacks schemeRead, isPlace_place ?_ placeRead⟩
    intro char inMain isMark
    have notQuery := List.all_eq_true.mp List.all_takeWhile char inMain
    have notFragment := List.all_eq_true.mp List.all_takeWhile char
      ((List.takeWhile_sublist _).subset inMain)
    simp only [Bool.not_eq_true', beq_eq_false_iff_ne] at notQuery notFragment
    simp [notQuery, notFragment] at isMark

/-- The place of a URI in its written form, with the path. -/
def writtenPlace (uri : Uri) : List Char :=
  match uri.authority with
  | some authority => ['/', '/'] ++ authority.render ++ uri.rawPath
  | none => (if ['/', '/'].isPrefixOf uri.rawPath then ['/', '.'] else []) ++ uri.rawPath

/-- The query and the fragment of a URI in its written form. -/
def writtenEnd (uri : Uri) : List Char :=
  uri.query.elim [] ('?' :: ·) ++ uri.fragment.elim [] ('#' :: ·)

theorem toList_render (uri : Uri) :
    uri.render.toList = uri.scheme ++ ':' :: (writtenPlace uri ++ writtenEnd uri) := by
  unfold render writtenPlace writtenEnd
  cases uri.authority <;> simp

theorem head?_writtenEnd (uri : Uri) : ∀ first ∈ (writtenEnd uri).head?, first ∈ ['?', '#'] := by
  unfold writtenEnd
  cases uri.query <;> cases uri.fragment <;> simp

theorem writtenPlace_lacks {uri : Uri} (written : IsWritten uri) :
    Lacks ['?', '#'] (writtenPlace uri) := by
  have path := written.place.path
  unfold writtenPlace
  split
  · rename_i authority named
    have isAuthority := (written.place.machine authority named).1
    refine (Lacks.append (by decide) ?_).append path
    exact (render_authority_lacks isAuthority).fewer (by decide)
  · refine Lacks.append ?_ path
    split <;> decide

theorem writtenPlace_congr {uri other : Uri} (written : IsWritten uri)
    (otherWritten : IsWritten other) (same : uri.render = other.render) : writtenPlace uri = writtenPlace other := by
  have texts := congrArg String.toList same
  rw [toList_render, toList_render] at texts
  have behindScheme := (written.scheme.cut_eq (by simp) otherWritten.scheme (by simp) texts).2
  have cut := (writtenPlace_lacks written).cut_eq (head?_writtenEnd uri)
    (writtenPlace_lacks otherWritten) (head?_writtenEnd other) (List.cons.inj behindScheme).2
  exact cut.1

/-- Only the place of a machine starts with two slashes. -/
theorem authority_isSome_of_slashes (uri : Uri) (rest : List Char)
    (slashes : writtenPlace uri = '/' :: '/' :: rest) : uri.authority.isSome = true := by
  unfold writtenPlace at slashes
  split at slashes
  · rename_i named
    rw [named]
    rfl
  · split at slashes
    · simp at slashes
    · rename_i single
      rw [List.nil_append] at slashes
      simp [slashes] at single

/-- Two slashes behind a dot are a dot behind a slash. -/
theorem dotted_of_slashes {path : List Char} (slashes : ['/', '/'].isPrefixOf path = true) :
    ['/', '.', '/'] <+: ['/', '.'] ++ path := by
  obtain ⟨rest, rfl⟩ := List.isPrefixOf_iff_prefix.mp slashes
  exact ⟨'/' :: rest, rfl⟩

theorem rawPath_congr_of_none {uri other : Uri} (written : IsWritten uri)
    (otherWritten : IsWritten other) (unnamed : uri.authority = none)
    (otherUnnamed : other.authority = none) (same : writtenPlace uri = writtenPlace other) : uri.rawPath = other.rawPath := by
  unfold writtenPlace at same
  rw [unnamed, otherUnnamed] at same
  dsimp only at same
  split at same <;> split at same
  · exact List.append_cancel_left same
  · rename_i slashes _
    refine absurd ?_ (otherWritten.place.dotless otherUnnamed)
    exact (same.trans (List.nil_append _)) ▸ dotted_of_slashes slashes
  · rename_i _ slashes
    refine absurd ?_ (written.place.dotless unnamed)
    exact (same.symm.trans (List.nil_append _)) ▸ dotted_of_slashes slashes
  · exact same

theorem stops_of_head? {path : List Char} (slashed : path ≠ [] → path.head? = some '/') :
    ∀ first ∈ path.head?, first ∈ ['/'] := by
  intro first isFirst
  have present : path ≠ [] := List.ne_nil_of_mem (List.mem_of_head? isFirst)
  rw [slashed present] at isFirst
  cases isFirst
  exact List.mem_singleton_self _

/-- The authority and the path behind it can be told apart. -/
theorem place_congr_of_some {uri other : Uri} {authority otherAuthority : Authority}
    (written : IsWritten uri) (otherWritten : IsWritten other)
    (named : uri.authority = some authority) (otherNamed : other.authority = some otherAuthority)
    (same : writtenPlace uri = writtenPlace other) :
    authority.render = otherAuthority.render ∧ uri.rawPath = other.rawPath := by
  obtain ⟨isAuthority, slashed⟩ := written.place.machine authority named
  obtain ⟨otherIsAuthority, otherSlashed⟩ := otherWritten.place.machine otherAuthority otherNamed
  unfold writtenPlace at same
  rw [named, otherNamed] at same
  dsimp only at same
  rw [List.append_assoc, List.append_assoc] at same
  exact ((render_authority_lacks isAuthority).fewer (by decide)).cut_eq (stops_of_head? slashed)
    ((render_authority_lacks otherIsAuthority).fewer (by decide)) (stops_of_head? otherSlashed)
    (List.append_cancel_left same)

theorem isRemote_congr {authority other : Authority} {uri otherUri : Uri}
    (written : IsAuthority authority) (otherWritten : IsAuthority other)
    (named : uri.authority = some authority) (otherNamed : otherUri.authority = some other)
    (same : authority.render = other.render) : uri.isRemote = otherUri.isRemote := by
  have both (name : List Char) (plain : Lacks [':', '['] name) :
      authority.host = name ↔ other.host = name := by
    constructor
    · rintro rfl
      exact host_congr written otherWritten same plain
    · rintro rfl
      exact host_congr otherWritten written same.symm plain
  have empty := both [] (by decide)
  have here := both "localhost".toList (by decide)
  rw [Bool.eq_iff_iff]
  simp only [isRemote, named, otherNamed, Bool.and_eq_true, Bool.not_eq_true',
    List.isEmpty_eq_false_iff, bne_iff_ne, ne_eq, empty, here]

/-- URIs that are written in the same way have the same path. -/
theorem IsRead.path_congr {uri other : Uri} (isRead : IsRead uri) (otherIsRead : IsRead other)
    (same : uri.render = other.render) : uri.path = other.path := by
  have written := isRead.isWritten
  have otherWritten := otherIsRead.isWritten
  have places := writtenPlace_congr written otherWritten same
  have facts : uri.rawPath = other.rawPath ∧ uri.isRemote = other.isRemote := by
    cases named : uri.authority with
    | none =>
        cases otherNamed : other.authority with
        | none =>
            exact ⟨rawPath_congr_of_none written otherWritten named otherNamed places,
              by simp [isRemote, named, otherNamed]⟩
        | some otherAuthority =>
            have slashes := authority_isSome_of_slashes uri
              (otherAuthority.render ++ other.rawPath)
              (by rw [places, writtenPlace, otherNamed]; rfl)
            rw [named] at slashes
            contradiction
    | some authority =>
        cases otherNamed : other.authority with
        | none =>
            have slashes := authority_isSome_of_slashes other
              (authority.render ++ uri.rawPath)
              (by rw [← places, writtenPlace, named]; rfl)
            rw [otherNamed] at slashes
            contradiction
        | some otherAuthority =>
            obtain ⟨authorities, paths⟩ :=
              place_congr_of_some written otherWritten named otherNamed places
            exact ⟨paths, isRemote_congr (written.place.machine _ named).1
              (otherWritten.place.machine _ otherNamed).1 named otherNamed authorities⟩
  simp only [path, filePath?, facts.1, facts.2]

end InlineScript.Uri
