import SchemaKit.Connection.Settings
import SchemaKit.Proofs.Pieces
import SchemaKit.Proofs.WrittenUrl

/-!
# Settings through their URL

What `Settings.ofUrl` reads from the URL that `Settings.url` writes (`Settings.ofUrl_url`).  User
and password may be any texts: they come back as they were, and nothing of them is taken for another
part (`Settings.ofUrl_url_of_ordinary`).  The name of the database may be any text but the empty one
and the two that mean a directory, a dot and two dots: being escaped does not keep a path from being
resolved (`Settings.database_survives_iff`).
-/

namespace SchemaKit.Connection

open Text

/-! ## Dots in a path -/

namespace Url

/-- Whether a dot is escaped or not, it reads back as a dot. -/
theorem decodeBytes_of_dropDot? {cs rest : List Char} (h : dropDot? cs = some rest) :
    Percent.decodeBytes (Utf8.encode cs) = 0x2E :: Percent.decodeBytes (Utf8.encode rest) := by
  unfold dropDot? at h
  split at h
  case h_1 tail =>
    obtain rfl := Option.some.inj h
    rw [Utf8.encode_cons_of_ascii (by decide)]
    exact Percent.decodeBytes_cons_of_ne (by decide) _
  case h_2 e tail =>
    by_cases he : (decide (e = 'e') || decide (e = 'E')) = true
    · rw [if_pos he] at h
      obtain rfl := Option.some.inj h
      rw [Bool.or_eq_true, decide_eq_true_eq, decide_eq_true_eq] at he
      rw [Utf8.encode_cons_of_ascii (by decide), Utf8.encode_cons_of_ascii (by decide)]
      rcases he with rfl | rfl
      · rw [Utf8.encode_cons_of_ascii (by decide), Percent.decodeBytes]
        rfl
      · rw [Utf8.encode_cons_of_ascii (by decide), Percent.decodeBytes]
        rfl
    · rw [if_neg he] at h
      cases h
  case h_3 => cases h

theorem decode_of_isSingleDot {cs : List Char} (h : isSingleDot cs = true) :
    Percent.decode cs = "." := by
  have hdrop : dropDot? cs = some [] := of_decide_eq_true h
  unfold Percent.decode
  rw [decodeBytes_of_dropDot? hdrop, Utf8.encode_nil, Percent.decodeBytes_nil]
  exact Utf8.toStringLossy_encode "."

theorem decode_of_isDoubleDot {cs : List Char} (h : isDoubleDot cs = true) :
    Percent.decode cs = ".." := by
  have hbind : (dropDot? cs).bind dropDot? = some [] := of_decide_eq_true h
  obtain ⟨rest, hfirst, hsecond⟩ := Option.bind_eq_some_iff.mp hbind
  unfold Percent.decode
  rw [decodeBytes_of_dropDot? hfirst, decodeBytes_of_dropDot? hsecond, Utf8.encode_nil,
    Percent.decodeBytes_nil]
  exact Utf8.toStringLossy_encode ".."

/-- **A name is escaped to a dot or two** exactly if it is one or two. -/
theorem isSingleDot_encode (name : String) :
    isSingleDot (Percent.encode name).toList = true ↔ name = "." := by
  constructor
  · intro h
    rw [← Percent.decode_encode name]
    exact decode_of_isSingleDot h
  · rintro rfl
    decide

theorem isDoubleDot_encode (name : String) :
    isDoubleDot (Percent.encode name).toList = true ↔ name = ".." := by
  constructor
  · intro h
    rw [← Percent.decode_encode name]
    exact decode_of_isDoubleDot h
  · rintro rfl
    decide

/-- Only one slash stands in front of a segment. -/
theorem dropWhile_slash {segment : List Char} (h : '/' ∉ segment) :
    ('/' :: segment).dropWhile (· = '/') = segment := by
  rw [List.dropWhile_cons_of_pos (by decide)]
  cases segment with
  | nil => rfl
  | cons c tail =>
    apply List.dropWhile_cons_of_neg
    intro hc
    rw [decide_eq_true_eq] at hc
    exact h (hc ▸ List.mem_cons_self ..)

/-- Of a path of a single segment nothing is left if the segment is one or two dots. -/
theorem resolvePath_segment {segment : List Char} (h : '/' ∉ segment) :
    resolvePath ('/' :: segment) =
      '/' :: if isSingleDot segment ∨ isDoubleDot segment then [] else segment := by
  have hsplit : segment.splitOn '/' = [segment] := List.splitOn_eq_singleton h
  unfold resolvePath
  simp only [if_true, hsplit, resolve]
  by_cases hdouble : isDoubleDot segment = true
  · rw [if_pos hdouble, if_pos (Or.inr hdouble)]
    rfl
  · rw [if_neg hdouble]
    by_cases hsingle : isSingleDot segment = true
    · rw [if_pos hsingle, if_pos (Or.inl hsingle)]
      rfl
    · rw [if_neg hsingle, if_neg (not_or.mpr ⟨hsingle, hdouble⟩)]
      rfl

end Url

/-! ## A query of one pair -/

namespace Form

theorem decode_of_plain {cs : List Char} (h : ∀ c ∈ cs, Url.isPlain c = true) :
    decode cs = String.ofList cs := by
  have hplus : cs.map (fun c => if c = '+' then ' ' else c) = cs.map id := by
    apply List.map_congr_left
    intro c hc
    exact if_neg (Url.ne_of_true_of_false (h c hc) (by decide))
  unfold decode
  rw [hplus, List.map_id]
  apply Percent.decode_of_plain
  intro c hc
  exact ⟨Url.toNat_lt_of_isPlain (h c hc), Url.ne_of_true_of_false (h c hc) (by decide)⟩

/-- **The first pair** is found under its name, up to the first ampersand. -/
theorem get?_pair {name : List Char} (hname : ∀ c ∈ name, Url.isPlain c = true)
    (value : List Char) :
    get? (name ++ '=' :: value) (String.ofList name) =
      some (decode (value.takeWhile (· != '&'))) := by
  have hampersand : ∀ c ∈ name, (c != '&') = true := by
    intro c hc
    rw [bne_iff_ne]
    exact Url.ne_of_true_of_false (hname c hc) (by decide)
  have hequals : ∀ c ∈ name, (c != '=') = true := by
    intro c hc
    rw [bne_iff_ne]
    exact Url.ne_of_true_of_false (hname c hc) (by decide)
  -- the name has neither an ampersand nor an equals sign, so pair and name end in the value
  have hfirst : (name ++ '=' :: value).takeWhile (· != '&') =
      name ++ '=' :: value.takeWhile (· != '&') := by
    rw [List.takeWhile_append_of_pos hampersand, List.takeWhile_cons_of_pos (by decide)]
  have hpair : pair (name ++ '=' :: value.takeWhile (· != '&')) =
      (String.ofList name, decode (value.takeWhile (· != '&'))) := by
    unfold pair
    rw [Text.takeWhile_append_cons hequals (by decide),
      Text.dropWhile_append_cons hequals (by decide), List.drop_one, List.tail_cons,
      decode_of_plain hname]
  obtain ⟨rest, hrest⟩ := exists_splitOn_eq_cons '&' (name ++ '=' :: value)
  unfold get? pairs
  rw [hrest, hfirst, List.filter_cons_of_pos (by simp), List.map_cons, hpair,
    List.find?_cons_of_pos (by simp)]
  rfl

end Form

/-! ## The round trip -/

namespace Settings

/-- The parts of the URL of some settings. -/
def parts (s : Settings) : Url where
  user := (Percent.encode s.user).toList
  password := if s.password = "" then none else some (Percent.encode s.password).toList
  host := s.host.toList
  port := some s.port
  path := '/' :: (Percent.encode s.database).toList
  query := s.sslmode.map fun mode => "sslmode".toList ++ '=' :: mode.toList

theorem isPlain_of_mem_sslmode : ∀ c ∈ "sslmode".toList, Url.isPlain c = true :=
  List.all_eq_true.mp (by decide)

/-- In front of the mode there is nothing that counts for nothing or ends a query. -/
theorem clean_query (mode : List Char) :
    (Url.clean ("sslmode".toList ++ '=' :: mode)).takeWhile (· != '#') =
      "sslmode".toList ++ '=' :: (Url.clean mode).takeWhile (· != '#') := by
  have hspace : ("sslmode=".toList.all fun c => decide (' ' < c)) = true := by decide
  have hkept : ∀ c ∈ "sslmode=".toList, (c != '#') = true := List.all_eq_true.mp (by decide)
  have hfront : ∀ text : List Char, "sslmode".toList ++ '=' :: text = "sslmode=".toList ++ text :=
    fun text => rfl
  rw [hfront, hfront, Url.clean_append fun c hc =>
    of_decide_eq_true (List.all_eq_true.mp hspace c hc), List.takeWhile_append_of_pos hkept]

theorem parts_host (s : Settings) : s.parts.host = s.host.toList := by
  simp only [parts]

theorem parts_user (s : Settings) : s.parts.user = (Percent.encode s.user).toList := by
  simp only [parts]

theorem parts_path (s : Settings) :
    s.parts.path = '/' :: (Percent.encode s.database).toList := by
  simp only [parts]

/-- Settings whose URL falls into its parts again: there is a user, and the host holds nothing that
would have to be escaped. -/
structure IsWritable (s : Settings) : Prop where
  user : s.user ≠ ""
  host : Url.IsSettled s.host.toList

/-- The stretch of a mode that is taken for one when it stands at the end of a URL: it ends at the
first delimiter, and what counts for nothing in a URL is left out. -/
def modeStretch (cs : List Char) : List Char :=
  ((Url.clean cs).takeWhile (· != '#')).takeWhile (· != '&')

/-- What is read of a mode that has been written: it stands in the URL as it is, and is decoded. -/
def rereadMode (mode : String) : String :=
  Form.decode (modeStretch mode.toList)

/-- What is read of settings that have been written: all but the limits of the pool, which no URL
holds, a database whose name is lost, and a mode that does not stand for itself. -/
def reread (s : Settings) : Settings :=
  let usual : Settings := {}
  { s with
    database :=
      if s.database = "" ∨ s.database = "." ∨ s.database = ".." then usual.database
      else s.database
    sslmode := s.sslmode.map rereadMode
    maxConnections := usual.maxConnections
    acquireTimeout := usual.acquireTimeout }

theorem part_of_ne_nil {cs : List Char} (h : cs ≠ []) : part cs = some cs := by
  unfold part
  rw [if_neg (by simpa using h)]

/-- **The name of a database** comes back from its path, unless nothing of the path is left. -/
theorem part_path (name usual : String) :
    ((part ((Url.resolvePath ('/' :: (Percent.encode name).toList)).dropWhile (· = '/'))).map
      Percent.decode).getD usual =
        if name = "" ∨ name = "." ∨ name = ".." then usual else name := by
  have hslash : '/' ∉ (Percent.encode name).toList := fun h =>
    absurd (Percent.isCoded_of_mem_encode h) (by decide)
  -- escaping a name neither makes dots nor hides them
  have hresolved : (Url.isSingleDot (Percent.encode name).toList = true ∨
      Url.isDoubleDot (Percent.encode name).toList = true) ↔ name = "." ∨ name = ".." :=
    or_congr (Url.isSingleDot_encode name) (Url.isDoubleDot_encode name)
  rw [Url.resolvePath_segment hslash]
  by_cases hdots : name = "." ∨ name = ".."
  · rw [if_pos (hresolved.mpr hdots), if_pos (Or.inr hdots), Url.dropWhile_slash List.not_mem_nil]
    rfl
  · rw [if_neg (hresolved.not.mpr hdots), Url.dropWhile_slash hslash]
    by_cases hempty : name = ""
    · rw [if_pos (Or.inl hempty), hempty]
      rfl
    · rw [if_neg (not_or.mpr ⟨hempty, hdots⟩), part_of_ne_nil (Percent.encode_ne_nil hempty),
        Option.map_some, Percent.decode_encode, Option.getD_some]

theorem toList_credentials (s : Settings) : s.credentials.toList = s.parts.information := by
  unfold credentials Url.information parts
  by_cases hpassword : s.password = ""
  · simp only [hpassword, if_true]
  · simp only [hpassword, if_false, String.toList_append, List.append_assoc]
    rfl

theorem toList_url (s : Settings) : s.url.toList = "postgres://".toList ++ s.parts.write := by
  unfold url Url.write Url.authority
  rw [← toList_credentials]
  cases hmode : s.sslmode with
  | none => simp [hmode, parts, Url.portText, Url.queryText]
  | some mode => simp [hmode, parts, Url.portText, Url.queryText]

theorem splitScheme?_postgres (rest : List Char) :
    splitScheme? ("postgres://".toList ++ rest) = some ("postgres".toList, rest) := by
  rfl

namespace IsWritable

variable {s : Settings} (h : s.IsWritable)
include h

theorem parts : s.parts.IsWritable where
  user_ne_nil := by
    rw [parts_user]
    exact Percent.encode_ne_nil h.user
  user c hc := by
    rw [parts_user] at hc
    exact Percent.isCoded_of_mem_encode hc
  password password hpassword := by
    unfold Settings.parts at hpassword
    by_cases hempty : s.password = ""
    · rw [if_pos hempty] at hpassword
      cases hpassword
    · rw [if_neg hempty] at hpassword
      obtain rfl := Option.some.inj hpassword
      exact ⟨Percent.encode_ne_nil hempty, fun _ hc => Percent.isCoded_of_mem_encode hc⟩
  host := h.host
  port := ⟨s.port, rfl⟩
  path := ⟨_, s.parts_path, fun _ hc => Percent.isCoded_of_mem_encode hc⟩

/-- **The parts of a written URL** name the settings that have been written, as far as a URL holds
them. -/
theorem ofParts_parts : ofParts { s.parts with
    path := Url.resolvePath s.parts.path
    query := (s.parts.query.map Url.clean).map (List.takeWhile (· != '#')) } = s.reread := by
  have hhost : ((part s.parts.host).map String.ofList).getD "localhost" = s.host := by
    rw [parts_host, part_of_ne_nil h.host.ne_nil, Option.map_some, String.ofList_toList,
      Option.getD_some]
  have hdatabase :
      ((part ((Url.resolvePath s.parts.path).dropWhile (· = '/'))).map Percent.decode).getD
        "postgres" = s.reread.database := by
    rw [parts_path]
    exact part_path s.database "postgres"
  have huser : ((part s.parts.user).map Percent.decode).getD "postgres" = s.user := by
    rw [parts_user, part_of_ne_nil (Percent.encode_ne_nil h.user), Option.map_some,
      Percent.decode_encode, Option.getD_some]
  have hpassword : (s.parts.password.map Percent.decode).getD "" = s.password := by
    unfold Settings.parts
    by_cases hempty : s.password = ""
    · simp only [if_pos hempty]
      exact hempty.symm
    · simp only [if_neg hempty]
      exact Percent.decode_encode s.password
  have hmode : (((s.parts.query.map Url.clean).map (List.takeWhile (· != '#'))).bind fun q =>
      Form.get? q "sslmode") = s.sslmode.map rereadMode := by
    unfold Settings.parts
    cases s.sslmode with
    | none => rfl
    | some mode =>
      have hpair := Form.get?_pair isPlain_of_mem_sslmode
        ((Url.clean mode.toList).takeWhile (· != '#'))
      rw [String.ofList_toList] at hpair
      simp only [Option.map_some, Option.bind_some, clean_query, hpair]
      rfl
  simp only [ofParts, hhost, hdatabase, huser, hpassword, hmode]
  rfl

end IsWritable

/-- **Written settings** are read back, as far as a URL holds them. -/
theorem ofUrl_url {s : Settings} (h : s.IsWritable) : ofUrl s.url = .ok s.reread := by
  have hparse := h.parts.parse_write
  unfold ofUrl
  rw [toList_url, splitScheme?_postgres]
  simp only [String.ofList_toList, hparse]
  rw [if_pos (by decide), Except.map, h.ofParts_parts]
  rfl

/-! ## What survives -/

/-- Settings with ordinary names for all but user and password, and the usual pool. -/
structure IsOrdinary (s : Settings) : Prop where
  user : s.user ≠ ""
  host_ne : s.host ≠ ""
  host : s.host.toList.all fun c => c.isAlphanum || c == '.' || c == '-'
  database_ne : s.database ≠ ""
  database : s.database.toList.all fun c => c.isAlphanum || c == '_'
  sslmode_ne : s.sslmode ≠ some ""
  sslmode : ∀ mode, s.sslmode = some mode → mode.toList.all fun c => c.isLower || c == '-'
  maxConnections : s.maxConnections = ({} : Settings).maxConnections
  acquireTimeout : s.acquireTimeout = ({} : Settings).acquireTimeout

theorem IsOrdinary.isWritable {s : Settings} (h : s.IsOrdinary) : s.IsWritable where
  user := h.user
  host := by
    apply Url.isSettled_of_isPlain
    · rw [ne_eq, String.toList_eq_nil_iff]
      exact h.host_ne
    · exact List.all_eq_true.mp h.host

/-- Letters, digits, dots and hyphens stand for themselves. -/
theorem rereadMode_of_isPlain {mode : String} (h : ∀ c ∈ mode.toList, Url.isPlain c = true) :
    rereadMode mode = mode := by
  have hkept : ∀ d, Url.isPlain d = false → ∀ c ∈ mode.toList, (c != d) = true := by
    intro d hd c hc
    rw [bne_iff_ne]
    exact Url.ne_of_true_of_false (h c hc) hd
  have hclean := Url.clean_append
    (fun c hc => Url.lt_of_isClear (Url.isClear_of_isPlain (h c hc))) []
  rw [List.append_nil, show Url.clean [] = [] from rfl, List.append_nil] at hclean
  unfold rereadMode modeStretch
  rw [hclean, List.takeWhile_eq_self_iff.mpr (hkept '#' (by decide)),
    List.takeWhile_eq_self_iff.mpr (hkept '&' (by decide)), Form.decode_of_plain h,
    String.ofList_toList]

theorem IsOrdinary.rereadMode_eq {s : Settings} (h : s.IsOrdinary) {mode : String}
    (hmode : s.sslmode = some mode) : rereadMode mode = mode := by
  apply rereadMode_of_isPlain
  intro c hc
  have hchar := List.all_eq_true.mp (h.sslmode mode hmode) c hc
  rw [Bool.or_eq_true, beq_iff_eq] at hchar
  rcases hchar with hlower | rfl
  · apply Url.isPlain_of_isAlphanum
    unfold Char.isAlphanum Char.isAlpha
    rw [hlower, Bool.or_true, Bool.true_or]
  · decide

/-- Nothing of ordinary settings is lost in a URL. -/
theorem IsOrdinary.reread_eq {s : Settings} (h : s.IsOrdinary) : s.reread = s := by
  have hdot : '.' ∉ s.database.toList := fun hmem =>
    absurd (List.all_eq_true.mp h.database '.' hmem) (by decide)
  have hname : ¬(s.database = "" ∨ s.database = "." ∨ s.database = "..") := by
    rintro (hname | hname | hname)
    · exact h.database_ne hname
    · exact hdot (by rw [hname]; decide)
    · exact hdot (by rw [hname]; decide)
  have hdatabase : s.reread.database = s.database := if_neg hname
  have hsslmode : s.reread.sslmode = s.sslmode := by
    change s.sslmode.map rereadMode = s.sslmode
    cases hmode : s.sslmode with
    | none => rfl
    | some mode => rw [Option.map_some, h.rereadMode_eq hmode]
  have hmax : s.reread.maxConnections = s.maxConnections := h.maxConnections.symm
  have htimeout : s.reread.acquireTimeout = s.acquireTimeout := h.acquireTimeout.symm
  calc
    s.reread = { s with
      database := s.reread.database
      sslmode := s.reread.sslmode
      maxConnections := s.reread.maxConnections
      acquireTimeout := s.reread.acquireTimeout } := rfl
    _ = s := by rw [hdatabase, hsslmode, hmax, htimeout]

/-- **Credentials survive the URL**, whatever user and password are, and all else stays as it is:
the URL of settings with otherwise ordinary names is read as these settings. -/
theorem ofUrl_url_of_ordinary {s : Settings} (h : s.IsOrdinary) : ofUrl s.url = .ok s := by
  rw [ofUrl_url h.isWritable, h.reread_eq]

/-- The delimiters of a URL, a blank, a line break, a null and a letter outside ASCII in a user, and
the text of an escaped delimiter in a password. -/
theorem ofUrl_url_of_delimiters :
    let s : Settings := {
      user := "a@:/?#% .é\u0000\n", password := "..:%40", host := "-.A", port := 0
      database := "_", sslmode := some "verify-full" }
    s.IsOrdinary ∧ ofUrl s.url = .ok s := by
  intro s
  have hs : s.IsOrdinary := {
    user := by decide
    host_ne := by decide
    host := by decide
    database_ne := by decide
    database := by decide
    sslmode_ne := by decide
    sslmode := by
      intro mode hmode
      obtain rfl := Option.some.inj hmode
      decide
    maxConnections := rfl
    acquireTimeout := rfl }
  exact ⟨hs, ofUrl_url_of_ordinary hs⟩

theorem isWritable_of_database (name : String) : ({ database := name } : Settings).IsWritable where
  user := by
    show "postgres" ≠ ""
    decide
  host := by
    show Url.IsSettled "localhost".toList
    exact Url.isSettled_of_isPlain (by decide) (List.all_eq_true.mp (by decide))

/-- **A database survives the URL** exactly if its name is neither empty nor what means a directory,
a dot or two dots.  Instead of these three the usual database is read. -/
theorem database_survives_iff (name : String) :
    (ofUrl (url { database := name }) = .ok { database := name } ↔
      name ≠ "" ∧ name ≠ "." ∧ name ≠ "..") ∧
    ofUrl (url { database := name }) =
      .ok { database := if name = "" ∨ name = "." ∨ name = ".." then "postgres" else name } := by
  have hread : ofUrl (url { database := name }) = .ok { database :=
      if name = "" ∨ name = "." ∨ name = ".." then "postgres" else name } :=
    ofUrl_url (isWritable_of_database name)
  refine ⟨?_, hread⟩
  rw [hread, ← not_or, ← not_or]
  by_cases hlost : name = "" ∨ name = "." ∨ name = ".."
  · rw [if_pos hlost]
    refine iff_of_false ?_ (not_not_intro hlost)
    intro hback
    -- the usual database has none of the three names
    have hname : "postgres" = name := congrArg Settings.database (Except.ok.inj hback)
    rw [← hname] at hlost
    exact absurd hlost (by decide)
  · rw [if_neg hlost]
    exact iff_of_true rfl hlost

/-- The URL that names the database of a single dot is read as one that names none. -/
theorem dot_database_becomes_usual :
    ("." : String) ≠ "" ∧ url { database := "." } = "postgres://postgres@localhost:5432/%2E" ∧
      ofUrl (url { database := "." }) = .ok { database := "postgres" } ∧
      ofUrl (url { database := "." }) ≠ .ok { database := "." } := by
  have hread := ofUrl_url (isWritable_of_database ".")
  refine ⟨by decide, by decide, hread, ?_⟩
  rw [hread]
  decide

end Settings

end SchemaKit.Connection
