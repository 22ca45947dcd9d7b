import OAuthEndpoint.Proofs.Text.Pieces
import OAuthEndpoint.Proofs.Url.Host
import OAuthEndpoint.Url.Parser

/-! What reading a URL makes of its parts.  Whatever the text, each part of a URL that was read is in
its written form: all but the path of one that is not hierarchical, and the fragment, hold visible
characters alone (`written_of_parse`). -/

namespace OAuthEndpoint.Url

open Text

theorem bind_eq_ok_iff {ε α β : Type} {first : Except ε α} {next : α → Except ε β} {b : β} :
    first >>= next = .ok b ↔ ∃ a, first = .ok a ∧ next a = .ok b := by
  cases first with
  | error error => simp [bind, Except.bind]
  | ok a => simp [bind, Except.bind]

/-! ### Schemes -/

/-- A scheme in lower case. -/
structure IsScheme (scheme : String) : Prop where
  letter : (scheme.toList.head?.map Char.isAlpha).getD false = true
  chars : MadeOf (fun c => isSchemeChar c = true ∧ c.toLower = c) scheme

theorem visible_of_isSchemeChar {c : Char} (h : isSchemeChar c = true) : Visible c := by
  simp only [isSchemeChar, Bool.or_eq_true, beq_iff_eq] at h
  rcases h with ((h | rfl) | rfl) | rfl
  · exact visible_of_isAlphanum h
  all_goals decide

theorem toLower_of_isSchemeChar {c : Char} (h : isSchemeChar c = true) :
    isSchemeChar c.toLower = true ∧ c.toLower.toLower = c.toLower ∧
      (c.isAlpha = true → c.toLower.isAlpha = true) := by
  have hlt := (visible_of_isSchemeChar h).lt_ascii
  exact forall_ascii (P := fun c => isSchemeChar c = true → isSchemeChar c.toLower = true ∧
    c.toLower.toLower = c.toLower ∧ (c.isAlpha = true → c.toLower.isAlpha = true))
    (by decide +kernel) hlt h

/-- How a scheme was read: it is the name before the first colon, in lower case. -/
theorem exists_of_scheme? {text rest : List Char} {scheme : String}
    (h : scheme? text = some (scheme, rest)) :
    ∃ name, cut (· == ':') text = (name, some rest) ∧
      scheme = lower (String.ofList (unbroken name)) ∧
      ((unbroken name).head?.map Char.isAlpha).getD false = true ∧
      ∀ c ∈ unbroken name, isSchemeChar c = true := by
  unfold scheme? at h
  split at h
  · next name after hcut =>
    simp only at h
    split at h
    · next hname =>
      rw [Bool.and_eq_true, List.all_eq_true] at hname
      rw [Option.some.injEq, Prod.mk.injEq] at h
      exact ⟨name, by rw [hcut, h.2], h.1.symm, hname.1, hname.2⟩
    · cases h
  · cases h

theorem isScheme_of_scheme? {text rest : List Char} {scheme : String}
    (h : scheme? text = some (scheme, rest)) : IsScheme scheme := by
  obtain ⟨name, -, rfl, hletter, hchars⟩ := exists_of_scheme? h
  rw [lower, String.toList_ofList]
  refine ⟨?_, ?_⟩
  · cases hunbroken : unbroken name with
    | nil => simp [hunbroken] at hletter
    | cons c chars =>
      rw [hunbroken] at hletter hchars
      have halpha : c.isAlpha = true := by simpa using hletter
      simpa using (toLower_of_isSchemeChar (hchars c List.mem_cons_self)).2.2 halpha
  · rw [madeOf_ofList]
    intro c hc
    obtain ⟨d, hd, rfl⟩ := List.mem_map.mp hc
    have hlower := toLower_of_isSchemeChar (hchars d hd)
    exact ⟨hlower.1, hlower.2.1⟩

theorem subset_of_scheme? {text rest : List Char} {scheme : String}
    (h : scheme? text = some (scheme, rest)) : rest ⊆ text := by
  obtain ⟨_, hcut, -, -, -⟩ := exists_of_scheme? h
  exact (subset_of_cut hcut).2 rest rfl

/-! ### The parts of a text -/

/-- How a text was cut and read, part by part. -/
theorem exists_of_parse {text : String} {url : Url} (h : parse text = .ok url) :
    ∃ beforeFragment fragment beforeQuery query rest,
      cut (· == '#') (trim (· ≤ ' ') text.toList) = (beforeFragment, fragment) ∧
      cut (· == '?') beforeFragment = (beforeQuery, query) ∧
      scheme? beforeQuery = some (url.scheme, rest) ∧
      hierarchy url.scheme (query.isNone && fragment.isNone) rest =
        .ok (url.authority, url.path) ∧
      url.query = query.map (encodeQuery (SchemeKind.ofName url.scheme)) ∧
      url.fragment = fragment.map encodeFragment := by
  unfold parse at h
  cases hfragment : cut (· == '#') (trim (· ≤ ' ') text.toList) with
  | mk beforeFragment fragment =>
    cases hquery : cut (· == '?') beforeFragment with
    | mk beforeQuery query =>
      simp only [hfragment, hquery] at h
      cases hscheme : scheme? beforeQuery with
      | none =>
        rw [hscheme] at h
        cases h
      | some found =>
        obtain ⟨scheme, rest⟩ := found
        simp only [hscheme] at h
        obtain ⟨⟨authority, path⟩, hhierarchy, hurl⟩ := bind_eq_ok_iff.mp h
        cases hurl
        exact ⟨beforeFragment, fragment, beforeQuery, query, rest, rfl, hquery, hscheme,
          hhierarchy, rfl, rfl⟩

/-- What the query of a kind of URL keeps. -/
def queryClass (kind : SchemeKind) : Char → Bool :=
  if kind = .other then Percent.keepsInQuery else Percent.keepsInSpecialQuery

theorem keepsInQuery_of_queryClass {kind : SchemeKind} {c : Char}
    (h : queryClass kind c = true) : Percent.keepsInQuery c = true := by
  unfold queryClass at h
  split at h
  · exact h
  · rw [Percent.keepsInSpecialQuery, Bool.and_eq_true] at h
    exact h.1

theorem kept_encodeQuery (kind : SchemeKind) (text : List Char) :
    MadeOf (fun c => queryClass kind c = true) (encodeQuery kind text) := by
  have hescapes : queryClass kind '%' = true ∧ ∀ n < 16, queryClass kind (hexDigit n) = true := by
    unfold queryClass
    split <;> decide
  exact madeOf_ofList.mpr
    (Percent.of_mem_encode hescapes.1 hescapes.2 fun _ _ hkeeps => hkeeps)

theorem allVisible_encodeQuery (kind : SchemeKind) (text : List Char) :
    AllVisible (encodeQuery kind text) :=
  (kept_encodeQuery kind text).mono fun _ h =>
    visible_of_keepsInQuery (keepsInQuery_of_queryClass h)

/-! ### Paths -/

theorem allVisible_segmentName (segment : List Char) : AllVisible (segmentName segment) := by
  rw [segmentName, allVisible_ofList]
  exact visible_of_mem_encode fun c _ => visible_of_keepsInPath

theorem visible_of_isAlpha {c : Char} (h : c.isAlpha = true) : Visible c :=
  visible_of_isAlphanum (by rw [Char.isAlphanum, h, Bool.true_or])

theorem exists_of_isDrive {name : List Char} (h : isDrive name = true) :
    ∃ letter mark, name = [letter, mark] ∧ letter.isAlpha = true ∧ (mark = ':' ∨ mark = '|') := by
  unfold isDrive at h
  split at h
  · next letter mark =>
    rw [Bool.and_eq_true, Bool.or_eq_true, beq_iff_eq, beq_iff_eq] at h
    exact ⟨letter, mark, rfl, h.1, h.2⟩
  · cases h

/-- A drive as it is written. -/
theorem allVisible_letter_colon {letter : Char} (h : letter.isAlpha = true) :
    AllVisible (String.ofList [letter, ':']) := by
  rw [allVisible_ofList]
  refine List.forall_mem_cons.mpr ⟨visible_of_isAlpha h, ?_⟩
  exact List.forall_mem_singleton.mpr (by decide)

theorem allVisible_drive {name : List Char} (h : isDrive name = true) :
    AllVisible (String.ofList (name.take 1 ++ [':'])) := by
  obtain ⟨letter, mark, rfl, hletter, -⟩ := exists_of_isDrive h
  exact allVisible_letter_colon hletter

theorem allVisible_brokenDrive {segment drive rest : List Char}
    (h : brokenDrive? segment = some (drive, rest)) : AllVisible (String.ofList drive) := by
  unfold brokenDrive? at h
  split at h
  · cases h
  next letter _ _ =>
    split at h
    · split at h
      · next hletter =>
        rw [Bool.and_eq_true, Bool.and_eq_true] at hletter
        rw [Option.some.injEq, Prod.mk.injEq] at h
        rw [← h.1]
        exact allVisible_letter_colon hletter.1.1
      · cases h
    · cases h

namespace Walk

/-- All that a walk went down by is of a class. -/
def Of (P : String → Prop) (walk : Walk) : Prop := ∀ name ∈ walk.names, P name

variable {P : String → Prop} {kind : SchemeKind} {walk : Walk} {segment : List Char}

theorem of_start : start.Of P := fun _ h => absurd h List.not_mem_nil

theorem Of.push {name : String} (h : walk.Of P) (hname : P name) :
    Of P { walk with names := name :: walk.names } :=
  List.forall_mem_cons.mpr ⟨hname, h⟩

theorem mem_of_mem_parent {name : String} {names : List String} (h : name ∈ parent names) :
    name ∈ names := by
  unfold parent at h
  split at h
  · exact h
  · split at h
    · exact h
    · exact List.mem_cons_of_mem _ h

theorem Of.up (h : walk.Of P) : Of P { walk with names := parent walk.names } :=
  fun name hname => h name (mem_of_mem_parent hname)

/-- A segment that is a step of its own goes down by no name. -/
theorem Of.step (h : walk.Of P) (hdown : isDot (unbroken segment) = false →
    isDoubleDot (unbroken segment) = false → (walk.down kind segment).Of P) :
    (walk.step kind segment).Of P := by
  unfold Walk.step
  simp only
  split
  · exact h.up
  next hdouble =>
    split
    · exact h
    next hdot => exact hdown (by simpa using hdot) (by simpa using hdouble)

theorem Of.finish (h : walk.Of P) (hempty : P "") (hdown : isDot (unbroken segment) = false →
    isDoubleDot (unbroken segment) = false → (walk.down kind segment).Of P) :
    (walk.finish kind segment).Of P := by
  unfold Walk.finish
  simp only
  split
  · exact h.up.push hempty
  next hdouble =>
    split
    · exact h.push hempty
    next hdot => exact hdown (by simpa using hdot) (by simpa using hdouble)

/-- What every segment of a text keeps, and the empty one that stands for a last step, is kept along
the text. -/
theorem of_along {text : List Char} (hempty : P "")
    (hdown : ∀ walk : Walk, walk.Of P → ∀ segment ∈ split (isSlash kind) text,
      isDot (unbroken segment) = false → isDoubleDot (unbroken segment) = false →
      (walk.down kind segment).Of P) : (along kind text).Of P := by
  have hne := split_ne_nil (isSlash kind) text
  have hlast := List.getLast_mem hne
  have hsteps : (((split (isSlash kind) text).dropLast).foldl (Walk.step kind) start).Of P :=
    List.foldlRecOn _ _ of_start fun walk h segment hsegment =>
      h.step (hdown walk h segment (List.dropLast_subset _ hsegment))
  unfold along
  simp only [List.getLast?_eq_some_getLast hne, Option.getD_some]
  exact hsteps.finish hempty (hdown _ hsteps _ hlast)

/-- All that a walk went down by is in its written form. -/
def Written (walk : Walk) : Prop := ∀ name ∈ walk.names, AllVisible name

theorem Written.down (h : walk.Written) (segment : List Char) :
    (walk.down kind segment).Written := by
  unfold Walk.down
  simp only
  split
  · split
    · next hdrive =>
      exact List.forall_mem_singleton.mpr (allVisible_drive hdrive)
    · split
      · next drive rest hbroken =>
        refine List.forall_mem_cons.mpr ⟨allVisible_segmentName rest, ?_⟩
        exact List.forall_mem_singleton.mpr (allVisible_brokenDrive hbroken)
      · exact List.forall_mem_singleton.mpr (allVisible_segmentName _)
  · exact Of.push h (allVisible_segmentName _)

theorem written_along (kind : SchemeKind) (text : List Char) : (along kind text).Written :=
  of_along allVisible_empty fun _ h segment _ _ _ => Written.down h segment

end Walk

/-- Paths that are no plain text hold visible segments alone. -/
def Path.Written : Path → Prop
  | .rooted segments => ∀ segment ∈ segments, AllVisible segment
  | .rootless _ => True

theorem Path.written_segments (kind : SchemeKind) (text : List Char) :
    (Path.rooted (segments kind text)).Written := by
  intro segment hsegment
  rw [segments, List.mem_reverse] at hsegment
  exact Walk.written_along kind text segment hsegment

theorem Path.written_afterAuthority (kind : SchemeKind) (text : List Char) :
    (pathAfterAuthority kind text).Written := by
  unfold pathAfterAuthority
  split
  · exact fun segment h => absurd h List.not_mem_nil
  · exact Path.written_segments kind _

/-! ### Authorities -/

structure Authority.Written (authority : Authority) : Prop where
  username : AllVisible authority.username
  password : AllVisible authority.password
  host : ∀ host ∈ authority.host, AllVisible host.render

/-- User name and password are made of what they keep. -/
theorem kept_userinfo {kind : SchemeKind} {ends : Bool} {text rest : List Char}
    {username password : String}
    (h : userinfo kind ends text = .ok (username, password, rest)) :
    MadeOf (fun c => Percent.keepsInUserinfo c = true) username ∧
      MadeOf (fun c => Percent.keepsInUserinfo c = true) password := by
  have hencode : ∀ text, MadeOf (fun c => Percent.keepsInUserinfo c = true)
      (String.ofList (Percent.encode Percent.keepsInUserinfo text)) := fun text =>
    madeOf_ofList.mpr (Percent.of_mem_encode (by decide) (by decide) fun _ _ hkeeps => hkeeps)
  unfold userinfo at h
  simp only at h
  split at h
  · cases h
    exact ⟨madeOf_empty, madeOf_empty⟩
  · split at h
    · cases h
    · cases h
      exact ⟨madeOf_empty, madeOf_empty⟩
  · cases h
    exact ⟨hencode _, hencode _⟩

theorem isHostText_of_host {kind : SchemeKind} {text rest : List Char} {found : Option Host}
    (h : host kind text rest = .ok found) : ∀ host ∈ found, IsHostText host.render.toList := by
  rintro name rfl
  unfold host at h
  split at h
  · obtain ⟨plain, hplain, hname⟩ := bind_eq_ok_iff.mp h
    split at hname
    · cases hname
    · cases hname
      exact Host.isHostText_of_parsePlain hplain
  · split at h
    · cases h
    · cases hparse : Host.parse text with
      | error fault => simp [hparse, Except.map] at h
      | ok parsed =>
        simp only [hparse, Except.map, Except.ok.injEq, Option.some.injEq] at h
        exact h ▸ Host.isHostText_of_parse hparse

/-- How an authority and the path after it were read, part by part. -/
theorem exists_of_authorityAndPath {scheme : String} {kind : SchemeKind} {ends : Bool}
    {text : List Char} {authority : Option Authority} {path : Path}
    (h : authorityAndPath scheme kind ends text = .ok (authority, path)) :
    ∃ found afterInfo afterHost rest,
      userinfo kind ends text = .ok (found.username, found.password, afterInfo) ∧
      host kind (hostText kind false afterInfo).1 afterHost = .ok found.host ∧
      port scheme afterHost = .ok (found.port, rest) ∧
      (found.host = none → found.username = "" ∧ found.password = "") ∧
      authority = some found ∧ path = pathAfterAuthority kind rest := by
  unfold authorityAndPath at h
  obtain ⟨⟨username, password, afterInfo⟩, hinfo, h⟩ := bind_eq_ok_iff.mp h
  simp only at h
  obtain ⟨host, hhost, h⟩ := bind_eq_ok_iff.mp h
  obtain ⟨⟨port, rest⟩, hport, h⟩ := bind_eq_ok_iff.mp h
  simp only at h
  split at h
  · cases h
  next hnot =>
    cases h
    refine ⟨⟨username, password, host, port⟩, afterInfo, _, rest, hinfo, hhost, hport, ?_, rfl, rfl⟩
    rintro rfl
    have hempty : username.isEmpty = true ∧ password.isEmpty = true := by simpa using hnot
    exact ⟨String.isEmpty_iff.mp hempty.1, String.isEmpty_iff.mp hempty.2⟩

theorem written_authorityAndPath {scheme : String} {kind : SchemeKind} {ends : Bool}
    {text : List Char} {authority : Option Authority} {path : Path}
    (h : authorityAndPath scheme kind ends text = .ok (authority, path)) :
    (∀ found ∈ authority, found.Written) ∧ path.Written := by
  obtain ⟨found, afterInfo, afterHost, rest, hinfo, hhost, -, -, rfl, rfl⟩ :=
    exists_of_authorityAndPath h
  obtain ⟨husername, hpassword⟩ := kept_userinfo hinfo
  refine ⟨?_, Path.written_afterAuthority kind rest⟩
  rintro authority ⟨⟩
  exact ⟨husername.mono fun _ => visible_of_keepsInUserinfo,
    hpassword.mono fun _ => visible_of_keepsInUserinfo,
    fun host hmem => (isHostText_of_host hhost host hmem).visible⟩

/-! ### Files -/

theorem subset_of_afterSlash? {kind : SchemeKind} {text rest : List Char}
    (h : afterSlash? kind text = some rest) : rest ⊆ text := by
  unfold afterSlash? at h
  split at h
  · cases h
  next c after hafter =>
    split at h
    · cases h
      intro d hd
      exact (List.dropWhile_sublist _).subset (hafter ▸ List.mem_cons_of_mem c hd)
    · cases h

theorem dropSlash_subset (kind : SchemeKind) (text : List Char) : dropSlash kind text ⊆ text := by
  unfold dropSlash
  cases h : afterSlash? kind text with
  | none => exact List.Subset.refl text
  | some rest => exact subset_of_afterSlash? h

theorem of_fileHost {text rest : List Char} {host : Option Host}
    (h : fileHost text = .ok (host, rest)) :
    rest ⊆ text ∧ ∀ name ∈ host, IsHostText name.render.toList := by
  have hdrop := (List.dropWhile_sublist (l := text) fun c => !isSlash .file c).subset
  have hnohost : ∀ name ∈ (none : Option Host), IsHostText name.render.toList :=
    fun found h => absurd h (by simp)
  unfold fileHost at h
  simp only at h
  split at h
  · cases h
    exact ⟨List.Subset.refl text, hnohost⟩
  split at h
  · cases h
    exact ⟨hdrop, hnohost⟩
  · obtain ⟨parsed, hparse, h⟩ := bind_eq_ok_iff.mp h
    split at h
    · cases h
      exact ⟨hdrop, hnohost⟩
    · cases h
      refine ⟨List.Subset.trans (dropSlash_subset .file _) hdrop, ?_⟩
      rintro found ⟨⟩
      exact Host.isHostText_of_parse hparse

/-- The path of a file is read from a part of the text, after its host if it has one. -/
theorem exists_of_fileAuthorityAndPath {text : List Char} {found : Option Authority × Path}
    (h : fileAuthorityAndPath text = .ok found) :
    ∃ host rest, found = filePath host rest ∧ rest ⊆ text ∧
      ∀ name ∈ host, IsHostText name.render.toList := by
  have hnohost : ∀ name ∈ (none : Option Host), IsHostText name.render.toList :=
    fun found h => absurd h (by simp)
  unfold fileAuthorityAndPath at h
  split at h
  · exact ⟨none, text, (Except.ok.inj h).symm, List.Subset.refl text, hnohost⟩
  next afterOne hone =>
    have hsubOne := subset_of_afterSlash? hone
    split at h
    · exact ⟨none, afterOne, (Except.ok.inj h).symm, hsubOne, hnohost⟩
    next afterTwo htwo =>
      obtain ⟨⟨host, rest⟩, hhost, h⟩ := bind_eq_ok_iff.mp h
      obtain ⟨hsub, hname⟩ := of_fileHost hhost
      have hsubTwo := List.Subset.trans (subset_of_afterSlash? htwo) hsubOne
      exact ⟨host, rest, (Except.ok.inj h).symm, List.Subset.trans hsub hsubTwo, hname⟩

theorem written_filePath {host : Option Host} (hhost : ∀ found ∈ host, AllVisible found.render)
    (text : List Char) : (∀ found ∈ (filePath host text).1, found.Written) ∧
      (filePath host text).2.Written := by
  unfold filePath
  simp only
  constructor
  · rintro authority ⟨⟩
    refine ⟨allVisible_empty, allVisible_empty, ?_⟩
    split
    · exact fun found h => absurd h (by simp)
    · exact hhost
  · intro segment hsegment
    split at hsegment
    · rw [List.mem_singleton.mp hsegment]
      exact allVisible_empty
    · next kept hkept =>
      have hmem := (List.dropWhile_sublist _).subset hsegment
      exact Walk.written_along _ text segment (List.mem_reverse.mp hmem)

theorem written_hierarchy {scheme : String} {ends : Bool} {text : List Char}
    {authority : Option Authority} {path : Path}
    (h : hierarchy scheme ends text = .ok (authority, path)) :
    (∀ found ∈ authority, found.Written) ∧ path.Written := by
  unfold hierarchy at h
  split at h
  · exact written_authorityAndPath h
  · obtain ⟨host, rest, hfound, -, hhost⟩ := exists_of_fileAuthorityAndPath h
    have hwritten := written_filePath (fun found hmem => (hhost found hmem).visible) rest
    rwa [← hfound] at hwritten
  · split at h
    · exact written_authorityAndPath h
    · cases h
      exact ⟨fun found h => absurd h (by simp), Path.written_segments _ _⟩
    · cases h
      exact ⟨fun found h => absurd h (by simp), trivial⟩

/-! ### Whole URLs -/

/-- A URL all of whose parts are in their written form. -/
structure Written (url : Url) : Prop where
  scheme : AllVisible url.scheme
  authority : ∀ authority ∈ url.authority, authority.Written
  path : url.path.Written
  query : ∀ query ∈ url.query, AllVisible query

theorem written_of_parse {text : String} {url : Url} (h : parse text = .ok url) : url.Written := by
  obtain ⟨_, _, _, _, _, -, -, hscheme, hhierarchy, hquery, -⟩ := exists_of_parse h
  obtain ⟨hauthority, hpath⟩ := written_hierarchy hhierarchy
  refine ⟨(isScheme_of_scheme? hscheme).chars.mono fun _ hc => visible_of_isSchemeChar hc.1,
    hauthority, hpath, ?_⟩
  intro text htext
  rw [hquery, Option.mem_def, Option.map_eq_some_iff] at htext
  obtain ⟨given, -, rfl⟩ := htext
  exact allVisible_encodeQuery _ given

/-! ### URLs as they are written -/

section MadeOf

variable {P : Char → Prop}

theorem Authority.madeOf_renderUserinfo {authority : Authority} (hmarks : MadeOf P ":@")
    (husername : MadeOf P authority.username) (hpassword : MadeOf P authority.password) :
    MadeOf P authority.renderUserinfo := by
  have hat : MadeOf P "@" := hmarks.of_subset (by decide)
  have hcolon : MadeOf P ":" := hmarks.of_subset (by decide)
  unfold Authority.renderUserinfo
  split
  · exact madeOf_empty
  split
  · exact husername.append hat
  · exact ((husername.append hcolon).append hpassword).append hat

theorem Authority.madeOf_render {authority : Authority} (hmarks : MadeOf P "/:@")
    (hdigit : ∀ n < 10, P n.digitChar) (husername : MadeOf P authority.username)
    (hpassword : MadeOf P authority.password)
    (hhost : ∀ host ∈ authority.host, MadeOf P host.render) : MadeOf P authority.render := by
  have hcolon : MadeOf P ":" := hmarks.of_subset (by decide)
  have huserinfo : MadeOf P authority.renderUserinfo :=
    Authority.madeOf_renderUserinfo (hmarks.of_subset (by decide)) husername hpassword
  have hhost : MadeOf P ((authority.host.map Host.render).getD "") := by
    cases hfound : authority.host with
    | none => exact madeOf_empty
    | some host => exact hhost host hfound
  have hport : MadeOf P ((authority.port.map fun port => ":" ++ toString port).getD "") := by
    cases authority.port with
    | none => exact madeOf_empty
    | some port => exact hcolon.append (madeOf_toString hdigit port.toNat)
  have hslashes : MadeOf P "//" := hmarks.of_subset (by decide)
  exact ((hslashes.append huserinfo).append hhost).append hport

theorem Path.madeOf_render_rooted {segments : List String} (hslash : MadeOf P "/")
    (h : ∀ segment ∈ segments, MadeOf P segment) : MadeOf P (Path.rooted segments).render := by
  refine MadeOf.join fun text htext => ?_
  obtain ⟨segment, hsegment, rfl⟩ := List.mem_map.mp htext
  exact hslash.append (h segment hsegment)

theorem madeOf_renderBase {url : Url} (hmarks : MadeOf P "/.:") (hscheme : MadeOf P url.scheme)
    (hauthority : ∀ authority ∈ url.authority, MadeOf P authority.render)
    (hpath : MadeOf P url.path.render) : MadeOf P url.renderBase := by
  have hcolon : MadeOf P ":" := hmarks.of_subset (by decide)
  have hbetween : MadeOf P url.renderAuthority := by
    unfold renderAuthority
    split
    · next authority hfound => exact hauthority authority hfound
    · exact hmarks.of_subset (by decide)
    · exact madeOf_empty
  exact ((hscheme.append hcolon).append hbetween).append hpath

end MadeOf

theorem Authority.Written.allVisible_render {authority : Authority} (h : authority.Written) :
    AllVisible authority.render :=
  Authority.madeOf_render (by decide) (by decide) h.username h.password h.host

/-- What is written of a URL without a fragment, where its base is visible. -/
theorem allVisible_render_of_base {url : Url} (hbase : AllVisible url.renderBase)
    (hquery : ∀ query ∈ url.query, AllVisible query) (hfragment : url.fragment = none) :
    AllVisible url.render := by
  have hmarked : AllVisible ((url.query.map ("?" ++ ·)).getD "") :=
    AllVisible.getD_map (by decide) hquery
  rw [render, hfragment]
  exact (hbase.append hmarked).append allVisible_empty

namespace Written

variable {url : Url}

theorem allVisible_renderPath (h : url.Written) (hhierarchical : url.isHierarchical = true) :
    AllVisible url.path.render := by
  have hpath := h.path
  unfold isHierarchical at hhierarchical
  split at hhierarchical
  · next segments hsegments =>
    rw [hsegments] at hpath ⊢
    exact Path.madeOf_render_rooted (by decide) hpath
  · cases hhierarchical

/-- What is written of a URL without a fragment. -/
theorem allVisible_render (h : url.Written) (hhierarchical : url.isHierarchical = true)
    (hfragment : url.fragment = none) : AllVisible url.render := by
  have hbase : AllVisible url.renderBase :=
    madeOf_renderBase (by decide) h.scheme
      (fun authority hfound => (h.authority authority hfound).allVisible_render)
      (h.allVisible_renderPath hhierarchical)
  exact allVisible_render_of_base hbase h.query hfragment

/-- Pairs of any text are visible once they are serialized. -/
theorem appendPairs (h : url.Written) (pairs : List (String × String)) :
    (url.appendPairs pairs).Written where
  scheme := h.scheme
  authority := h.authority
  path := h.path
  query := by
    intro query hquery
    have hserialize := allVisible_serialize pairs
    unfold Url.appendPairs extendQuery at hquery
    simp only at hquery
    split at hquery
    · exact h.query query hquery
    split at hquery
    · cases hquery
      exact hserialize
    · next text htext =>
      split at hquery
      · cases hquery
        exact hserialize
      · cases hquery
        exact ((h.query text htext).append (by decide)).append hserialize

end Written

end OAuthEndpoint.Url
