/-
URLs of encoded paths.

A path of names is written as a URL by percent-encoding its names one by one.  Nothing in such a
URL is passed over or resolved, so it is read back as that path, whatever bytes the names have:

* **`Path.IsName`** — a byte string that is one step of a path, and **`Path.ofNames`**, the path of
  some names from the root;
* **`isOrdinary_toText`** — an encoded name has no character with a meaning in a URL, and is not
  read as a dot either;
* **`parse?_spelled`** — so the segments of the URL give the names back;
* **`ofUrl_spelledUrl`** — and the location is known by the slash at the end of the URL, or by the
  entry that it is the archive of.
-/
import ClassOrigin.Proofs.NestedArchives
import ClassOrigin.Proofs.PercentCodec
import ClassOrigin.Proofs.TextCodec
import ClassOrigin.Proofs.UrlSegments

namespace ClassOrigin

/-! ### Names -/

namespace Path

variable {name : Bytes}

/-- A name in a directory, which is one step of a path. -/
structure IsName (name : Bytes) : Prop where
  ne_nil : name ≠ []
  ne_dot : name ≠ [dot]
  ne_dots : name ≠ [dot, dot]
  slash_notMem : slash ∉ name

instance : DecidablePred IsName := fun name =>
  decidable_of_iff (name ≠ [] ∧ name ≠ [dot] ∧ name ≠ [dot, dot] ∧ slash ∉ name)
    ⟨fun ⟨hnil, hdot, hdots, hslash⟩ => ⟨hnil, hdot, hdots, hslash⟩,
      fun ⟨hnil, hdot, hdots, hslash⟩ => ⟨hnil, hdot, hdots, hslash⟩⟩

/-- The path from the root over some names. -/
def ofNames (names : List Bytes) : Path :=
  ⟨slash :: intercalate [slash] names⟩

theorem ofComponents_names (names : List Bytes) :
    ofComponents (.root :: names.map Component.name) = ofNames names := by
  rw [ofComponents, List.map_map, ofNames]
  congr
  exact List.map_id names

theorem IsName.steps_eq (h : IsName name) : steps ⟨name⟩ = [.name name] := by
  have hpiece : Component.ofPiece? name = some (.name name) := by
    rw [Component.ofPiece?, if_neg (not_or_intro h.ne_nil h.ne_dot), if_neg h.ne_dots]
  have hstep : (Component.name name).IsStep := ⟨hpiece, h.slash_notMem⟩
  have hspelled := steps_spelled (List.forall_mem_singleton.mpr hstep)
  rwa [List.map_singleton, intercalate_singleton] at hspelled

end Path

/-! ### Spelled names -/

namespace Percent

variable {c d : Char} {spelling name : Bytes}

/-- A spelling as text. -/
def toText (spelling : Bytes) : List Char :=
  spelling.map Char.ofUInt8

/-- A character of a spelling: a letter, a digit, one of `-`, `_`, `~` and `.`, or a percent
sign. -/
def IsMark (c : Char) : Prop :=
  0x30 ≤ c.toNat ∧ c.toNat ≤ 0x39 ∨ 0x41 ≤ c.toNat ∧ c.toNat ≤ 0x5A ∨
    0x61 ≤ c.toNat ∧ c.toNat ≤ 0x7A ∨ c.toNat ∈ [0x2D, 0x5F, 0x7E, 0x2E, 0x25]

instance : DecidablePred IsMark := fun _ =>
  inferInstanceAs (Decidable (_ ∨ _))

theorem IsMark.ne (h : IsMark c) (hd : ¬ IsMark d) : c ≠ d := by
  rintro rfl
  exact hd h

theorem IsMark.isVisible (h : IsMark c) : FileUrl.IsVisible c := by
  simp only [IsMark, List.mem_cons, List.not_mem_nil, or_false] at h
  rw [FileUrl.IsVisible]
  omega

section

variable (h : Encodes spelling name)
include h

theorem isMark_of_mem_toText (hc : c ∈ toText spelling) : IsMark c := by
  obtain ⟨b, hb, rfl⟩ := List.mem_map.mp hc
  have hnat : (Char.ofUInt8 b).toNat = b.toNat := rfl
  rw [IsMark, hnat]
  rcases mem_of_encodes h hb with hb | rfl
  · rw [isUnreserved_iff] at hb
    simp only [List.mem_cons, List.not_mem_nil, or_false]
    omega
  · decide

theorem decoded_toText : FileUrl.decoded (toText spelling) = name := by
  have hsingle : ∀ b ∈ spelling, ModifiedUtf8.isSingle b = true := by
    intro b hb
    have hvisible := (isMark_of_mem_toText h (List.mem_map_of_mem hb)).isVisible
    have hlow : 0x20 < b.toNat := hvisible.1
    have hhigh : b.toNat < 0x7F := hvisible.2
    rw [ModifiedUtf8.isSingle_iff]
    omega
  rw [FileUrl.decoded, toText, ModifiedUtf8.ofText_map_ofUInt8 hsingle, decode_of_encodes h]

end

theorem isMark_of_mem_spellings {spellings names : List Bytes}
    (h : List.Forall₂ Encodes spellings names) {s : List Char} (hs : s ∈ spellings.map toText)
    (hc : c ∈ s) : IsMark c := by
  induction h with
  | nil => cases hs
  | cons hfirst _ ih =>
    rcases List.mem_cons.mp hs with rfl | hs
    · exact isMark_of_mem_toText hfirst hc
    · exact ih hs

end Percent

namespace FileUrl

open Percent

/-! ### Segments -/

variable {spelling name : Bytes} {names spellings : List Bytes} {segments tail : List (List Char)}

section

variable (h : Encodes spelling name) (hname : Path.IsName name)
include h hname

theorem toText_ne_nil : toText spelling ≠ [] := by
  intro hnil
  have hdecoded := decoded_toText h
  rw [hnil] at hdecoded
  exact hname.ne_nil hdecoded.symm

/-- A spelled name is kept as it is. -/
theorem isOrdinary_toText : IsOrdinary (toText spelling) where
  isVisible c hc := (isMark_of_mem_toText h hc).isVisible
  isSlash_eq c hc := by
    have hmark := isMark_of_mem_toText h hc
    simp [isSlash, hmark.ne (show ¬ IsMark '/' by decide), hmark.ne (show ¬ IsMark '\\' by decide)]
  endsPath_eq c hc := by
    have hmark := isMark_of_mem_toText h hc
    simp [endsPath, hmark.ne (show ¬ IsMark '?' by decide), hmark.ne (show ¬ IsMark '#' by decide)]
  noDrive c hc := by
    have hmark := isMark_of_mem_toText h hc
    exact ⟨hmark.ne (by decide), hmark.ne (by decide)⟩
  isSingleDot_eq := by
    refine eq_false_of_ne_true fun hdot => hname.ne_dot ?_
    rw [← decoded_toText h, decoded_of_isSingleDot hdot]
  isDoubleDot_eq := by
    refine eq_false_of_ne_true fun hdots => hname.ne_dots ?_
    rw [← decoded_toText h, decoded_of_isDoubleDot hdots]

end

theorem head?_all_isEmpty (h : ∀ s ∈ segments, s ≠ []) (hne : segments ≠ []) :
    segments.head?.all List.isEmpty = false := by
  obtain ⟨first, others, rfl⟩ := List.exists_cons_of_ne_nil hne
  simpa using h first List.mem_cons_self

theorem getLast?_all_isEmpty (h : ∀ s ∈ segments, s ≠ []) (hne : segments ≠ []) :
    segments.getLast?.all List.isEmpty = false := by
  rw [← List.head?_reverse]
  refine head?_all_isEmpty (fun s hs => h s (List.mem_reverse.mp hs)) ?_
  simpa using hne

section

variable (hspelled : List.Forall₂ Encodes spellings names)
  (hnames : ∀ name ∈ names, Path.IsName name)
include hspelled

theorem map_toText_ne_nil (hne : names ≠ []) : spellings.map toText ≠ [] := by
  intro hnil
  obtain rfl := List.map_eq_nil_iff.mp hnil
  cases hspelled
  exact hne rfl

include hnames

theorem forall_toText :
    (∀ s ∈ spellings.map toText, IsOrdinary s) ∧ ∀ s ∈ spellings.map toText, s ≠ [] := by
  induction hspelled with
  | nil => exact ⟨nofun, nofun⟩
  | cons h _ ih =>
    obtain ⟨hname, hrest⟩ := List.forall_mem_cons.mp hnames
    obtain ⟨hordinary, hne⟩ := ih hrest
    exact ⟨List.forall_mem_cons.mpr ⟨isOrdinary_toText h hname, hordinary⟩,
      List.forall_mem_cons.mpr ⟨toText_ne_nil h hname, hne⟩⟩

theorem flatMap_steps_toText :
    (spellings.map toText).flatMap (fun s => Path.steps ⟨decoded s⟩) =
      names.map Path.Component.name := by
  induction hspelled with
  | nil => rfl
  | cons h _ ih =>
    obtain ⟨hname, hrest⟩ := List.forall_mem_cons.mp hnames
    rw [List.map_cons, List.flatMap_cons, decoded_toText h, hname.steps_eq, ih hrest]
    rfl

variable (htail : tail = [] ∨ tail = [[]])
include htail

/-! An empty segment behind the names stands for a slash at the end of the URL. -/

theorem isOrdinary_of_mem_append {segment : List Char}
    (hs : segment ∈ spellings.map toText ++ tail) : IsOrdinary segment := by
  rcases List.mem_append.mp hs with hs | hs
  · exact (forall_toText hspelled hnames).1 segment hs
  · rcases htail with rfl | rfl
    · cases hs
    · rw [List.mem_singleton.mp hs]
      exact isOrdinary_nil

theorem getLast?_append_all_isEmpty (hne : names ≠ []) :
    (spellings.map toText ++ tail).getLast?.all List.isEmpty = ! tail.isEmpty := by
  rcases htail with rfl | rfl
  · rw [List.append_nil]
    exact getLast?_all_isEmpty (forall_toText hspelled hnames).2 (map_toText_ne_nil hspelled hne)
  · rw [List.getLast?_append_of_ne_nil _ (List.cons_ne_nil [] [])]
    rfl

theorem flatMap_steps_append :
    (spellings.map toText ++ tail).flatMap (fun s => Path.steps ⟨decoded s⟩) =
      names.map Path.Component.name := by
  rw [List.flatMap_append, flatMap_steps_toText hspelled hnames]
  rcases htail with rfl | rfl
  · exact List.append_nil _
  · exact List.append_nil _

/-- A URL of spelled names names them. -/
theorem parse?_spelled (hne : names ≠ []) {scheme : String}
    (hscheme : scheme = "file:" ∨ scheme = "file://") :
    ∃ url, parse? (scheme.toList ++ '/' :: ['/'].intercalate (spellings.map toText ++ tail)) =
        some url ∧ url.path.normalize = Path.ofNames names ∧ url.endsWithSlash = ! tail.isEmpty := by
  have hspellings := map_toText_ne_nil hspelled hne
  have happend := List.append_ne_nil_of_left_ne_nil hspellings tail
  have hordinary : ∀ s ∈ spellings.map toText ++ tail, IsOrdinary s :=
    fun s => isOrdinary_of_mem_append hspelled hnames htail
  have hlast := getLast?_append_all_isEmpty hspelled hnames htail hne
  have hsteps := flatMap_steps_append hspelled hnames htail
  rcases hscheme with rfl | rfl
  · have hfirst : (spellings.map toText ++ tail).head?.all List.isEmpty = false := by
      rw [List.head?_append_of_ne_nil _ hspellings]
      exact head?_all_isEmpty (forall_toText hspelled hnames).2 hspellings
    refine ⟨_, parse?_file hordinary hfirst, ?_, hlast⟩
    rw [normalize_pathOf happend, hsteps, Path.ofComponents_names]
  · refine ⟨_, parse?_fileHost hordinary happend, ?_, hlast⟩
    have hempty : Path.steps ⟨decoded []⟩ = [] := rfl
    rw [normalize_pathOf (List.cons_ne_nil _ _), List.flatMap_cons, hempty, hsteps,
      List.nil_append, Path.ofComponents_names]

end

end FileUrl

/-! ### Locations -/

namespace CodeLocation

open Percent

variable {names spellings : List Bytes} {scheme : String} {c : Char}

/-- The URL of an encoded path. -/
def spelledUrl (scheme : String) (spellings : List Bytes) : String :=
  scheme ++ "/" ++ "/".intercalate (spellings.map fun spelling => String.ofList (toText spelling))

theorem toList_spelledUrl (scheme : String) (spellings : List Bytes) :
    (spelledUrl scheme spellings).toList =
      scheme.toList ++ '/' :: ['/'].intercalate (spellings.map toText) := by
  simp [spelledUrl, String.toList_intercalate, Function.comp_def]

/-- The location of a text in which nothing is white space and that is no `jar:` URL. -/
theorem ofUrl_of_visible {text : String} (hvisible : ∀ c ∈ text.toList, FileUrl.IsVisible c)
    (hjar : afterJar? text.toList = none) {url : FileUrl}
    (hurl : FileUrl.parse? text.toList = some url) :
    ofUrl (some text) =
      if url.endsWithSlash then directory url.path.normalize else archive url.path.normalize := by
  have htrimmed := FileUrl.isTrimmedBy_of_visible hvisible
  rw [ofUrl, toList_trim, Blank.trimBy_of_isTrimmedBy htrimmed, parse?_of_not_jar hjar, hurl]
  rfl

section

variable (hspelled : List.Forall₂ Encodes spellings names)
  (hnames : ∀ name ∈ names, Path.IsName name)
  (hscheme : scheme = "file:" ∨ scheme = "file://")

include hspelled hscheme

theorem mem_spelledUrl (hc : c ∈ (spelledUrl scheme spellings).toList) :
    IsMark c ∨ c = ':' ∨ c = '/' := by
  rw [toList_spelledUrl, List.mem_append, List.mem_cons] at hc
  rcases hc with hc | hc | hc
  · have hletters : ∀ d ∈ "file://".toList, IsMark d ∨ d = ':' ∨ d = '/' := by simp [IsMark]
    rcases hscheme with rfl | rfl
    · exact hletters c (List.mem_append_left "//".toList hc)
    · exact hletters c hc
  · exact .inr (.inr hc)
  · rcases FileUrl.mem_intercalate hc with hslash | ⟨s, hs, hc⟩
    · exact .inr (.inr hslash)
    · exact .inl (isMark_of_mem_spellings hspelled hs hc)

theorem isVisible_spelledUrl (hc : c ∈ (spelledUrl scheme spellings).toList) :
    FileUrl.IsVisible c := by
  rcases mem_spelledUrl hspelled hscheme hc with hmark | rfl | rfl
  · exact hmark.isVisible
  · exact ⟨by decide, by decide⟩
  · exact ⟨by decide, by decide⟩

/-- There is no exclamation mark in the URL, hence no mark of an entry. -/
theorem not_infix_spelledUrl : ¬ "!/".toList <:+: (spelledUrl scheme spellings).toList := by
  intro hinfix
  have hbang : '!' ∈ (spelledUrl scheme spellings).toList :=
    hinfix.subset (by decide +kernel : '!' ∈ "!/".toList)
  rcases mem_spelledUrl hspelled hscheme hbang with hmark | hcolon | hslash
  · exact absurd hmark (by decide)
  · cases hcolon
  · cases hslash

omit hspelled in
theorem afterJar?_scheme (rest : List Char) : afterJar? (scheme.toList ++ rest) = none := by
  rcases hscheme with rfl | rfl
  · rfl
  · rfl

include hnames

/-- A spelled path of names, without and with a slash behind it. -/
theorem ofUrl_spelled (hne : names ≠ []) :
    ofUrl (some (spelledUrl scheme spellings)) = archive (Path.ofNames names) ∧
      ofUrl (some (spelledUrl scheme spellings ++ "/")) = directory (Path.ofNames names) := by
  have hvisible : ∀ c ∈ (spelledUrl scheme spellings).toList, FileUrl.IsVisible c :=
    fun c => isVisible_spelledUrl hspelled hscheme
  constructor
  · obtain ⟨url, hurl, hpath, hslash⟩ :=
      FileUrl.parse?_spelled hspelled hnames (.inl rfl) hne hscheme
    have htext := toList_spelledUrl scheme spellings
    rw [List.append_nil, ← htext] at hurl
    rw [ofUrl_of_visible hvisible (htext ▸ afterJar?_scheme hscheme _) hurl, hpath, hslash]
    rfl
  · obtain ⟨url, hurl, hpath, hslash⟩ :=
      FileUrl.parse?_spelled hspelled hnames (.inr rfl) hne hscheme
    have hspellings := FileUrl.map_toText_ne_nil hspelled hne
    have htext : (spelledUrl scheme spellings ++ "/").toList =
        scheme.toList ++ '/' :: ['/'].intercalate (spellings.map toText ++ [[]]) := by
      rw [String.toList_append, toList_spelledUrl, FileUrl.intercalate_append_nil hspellings]
      simp
    have hvisible' : ∀ c ∈ (spelledUrl scheme spellings ++ "/").toList, FileUrl.IsVisible c := by
      rw [String.toList_append]
      refine List.forall_mem_append.mpr ⟨hvisible, ?_⟩
      simp [FileUrl.IsVisible]
    rw [← htext] at hurl
    rw [ofUrl_of_visible hvisible' (htext ▸ afterJar?_scheme hscheme _) hurl, hpath, hslash]
    rfl

omit hspelled hnames in
/-- The root is a directory. -/
theorem ofUrl_spelled_nil :
    ofUrl (some (spelledUrl scheme [])) = directory (Path.ofNames []) ∧
      ofUrl (some (spelledUrl scheme [] ++ "/")) = directory (Path.ofNames []) := by
  rcases hscheme with rfl | rfl
  · exact ⟨by decide +kernel, by decide +kernel⟩
  · exact ⟨by decide +kernel, by decide +kernel⟩

end

/-- **Encoded paths are read back.**  Behind `file:` or `file://`, a path whose names are spelled one
by one, with any byte in them but a slash, is an archive, and with a slash behind it a directory,
also when there are no names and it is the root.  Around an entry it is an archive whatever the
entry. -/
theorem ofUrl_spelledUrl {names spellings : List Bytes} {scheme : String}
    (hspelled : List.Forall₂ Encodes spellings names) (hnames : ∀ name ∈ names, Path.IsName name)
    (hscheme : scheme = "file:" ∨ scheme = "file://") :
    (names ≠ [] → ofUrl (some (spelledUrl scheme spellings)) = archive (Path.ofNames names)) ∧
      ofUrl (some (spelledUrl scheme spellings ++ "/")) = directory (Path.ofNames names) ∧
      ∀ entry, ofUrl (some ("jar:" ++ spelledUrl scheme spellings ++ "!/" ++ entry)) =
        archive (Path.ofNames names) := by
  obtain ⟨hdirectory, hpath⟩ :
      ofUrl (some (spelledUrl scheme spellings ++ "/")) = directory (Path.ofNames names) ∧
        (ofUrl (some (spelledUrl scheme spellings))).path? = some (Path.ofNames names) := by
    by_cases hne : names = []
    · subst hne
      cases hspelled
      obtain ⟨hroot, hdirectory⟩ := ofUrl_spelled_nil hscheme
      exact ⟨hdirectory, by rw [hroot]; rfl⟩
    · obtain ⟨harchive, hdirectory⟩ := ofUrl_spelled hspelled hnames hscheme hne
      exact ⟨hdirectory, by rw [harchive]; rfl⟩
  refine ⟨fun hne => (ofUrl_spelled hspelled hnames hscheme hne).1, hdirectory, fun entry => ?_⟩
  have htrimmed := FileUrl.isTrimmedBy_of_visible fun c => isVisible_spelledUrl hspelled hscheme
  have hentry := ofUrl_entry htrimmed (not_infix_spelledUrl hspelled hscheme) 0 entry
  rw [hpath] at hentry
  exact hentry

/-- A drive, what has a meaning in URLs, and bytes that are no text. -/
theorem ofUrl_spelledUrl_marked :
    (∀ name ∈ [[0x43, 0x3A], [0x20, 0x25, 0x21, 0x3F, 0x23], [0xFF, 0x2E]], Path.IsName name) ∧
      List.Forall₂ Encodes
        [[0x43, 0x25, 0x33, 0x61], encode [0x20, 0x25, 0x21, 0x3F, 0x23], encode [0xFF, 0x2E]]
        [[0x43, 0x3A], [0x20, 0x25, 0x21, 0x3F, 0x23], [0xFF, 0x2E]] ∧
      ofUrl (some "file:///C%3a/%20%25%21%3F%23/%FF.") =
        archive ⟨[0x2F, 0x43, 0x3A, 0x2F, 0x20, 0x25, 0x21, 0x3F, 0x23, 0x2F, 0xFF, 0x2E]⟩ := by
  have hnames : ∀ name ∈ [[0x43, 0x3A], [0x20, 0x25, 0x21, 0x3F, 0x23], [0xFF, 0x2E]],
      Path.IsName name := by
    decide
  have hdrive : Encodes [0x43, 0x25, 0x33, 0x61] [0x43, 0x3A] :=
    .itself rfl (.escaped rfl rfl rfl .nil)
  have hspelled : List.Forall₂ Encodes
      [[0x43, 0x25, 0x33, 0x61], encode [0x20, 0x25, 0x21, 0x3F, 0x23], encode [0xFF, 0x2E]]
      [[0x43, 0x3A], [0x20, 0x25, 0x21, 0x3F, 0x23], [0xFF, 0x2E]] :=
    .cons hdrive (.cons (encodes_encode _) (.cons (encodes_encode _) .nil))
  have hurl : spelledUrl "file://"
      [[0x43, 0x25, 0x33, 0x61], encode [0x20, 0x25, 0x21, 0x3F, 0x23], encode [0xFF, 0x2E]] =
        "file:///C%3a/%20%25%21%3F%23/%FF." := by
    decide +kernel
  obtain ⟨harchive, -⟩ := ofUrl_spelledUrl hspelled hnames (.inr rfl)
  exact ⟨hnames, hspelled, hurl ▸ harchive (List.cons_ne_nil _ _)⟩

end CodeLocation

end ClassOrigin
