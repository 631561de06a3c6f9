import Lodging.Proofs.Day.Stamp
import Lodging.Proofs.Listing.Routing
import Lodging.Proofs.Text.Blank
import Lodging.Settings

/-! # The setting of the partners

Partners are written as entries parted by commas, each a name and a URL with an equals sign between them.
Neither blanks at the ends of entries, names and URLs nor blank entries matter, so every way of writing
partners is read as these partners in their order. An entry that is no partner spoils the whole setting.
What is read has names that are not empty; to be registered they must be different, too, and have no colon
in them, and then they are what identifiers are looked up by. -/

namespace Lodging.Settings

open Listing (Registry Reference separator)
open Remote (PartnerApi)
open Text (Blanks)

/-! ## Ways of writing partners -/

/-- A partner that can be written: no blanks at the ends of its parts, and nothing in them that parts
entries, or names from URLs. -/
structure Writable (p : PartnerApi) : Prop where
  name_ne : p.name ≠ ""
  name_trim : Text.trim p.name.toList = p.name.toList
  name_mem : ',' ∉ p.name.toList ∧ '=' ∉ p.name.toList
  url_ne : p.baseUrl ≠ ""
  url_trim : Text.trim p.baseUrl.toList = p.baseUrl.toList
  url_mem : ',' ∉ p.baseUrl.toList

/-- The entry has the name and the URL of the partner, perhaps with blanks around them. -/
def Writes (p : PartnerApi) (entry : List Char) : Prop :=
  ∃ before behind ahead after, (Blanks before ∧ Blanks behind) ∧ (Blanks ahead ∧ Blanks after) ∧
    entry = (before ++ p.name.toList ++ behind) ++ '=' :: (ahead ++ p.baseUrl.toList ++ after)

/-- The entries write the partners in their order, perhaps with blank entries among them. -/
inductive WritesAll : List PartnerApi → List (List Char) → Prop
  | nil : WritesAll [] []
  | blank {ps : List PartnerApi} {entry : List Char} {entries : List (List Char)} (h : Blanks entry)
    (rest : WritesAll ps entries) : WritesAll ps (entry :: entries)
  | partner {p : PartnerApi} {ps : List PartnerApi} {entry : List Char} {entries : List (List Char)}
    (h : Writes p entry) (rest : WritesAll ps entries) : WritesAll (p :: ps) (entry :: entries)

/-- The entry is neither blank nor a partner: it has no equals sign, or nothing before or behind the first
one. -/
def Spoils (entry : List Char) : Prop :=
  ¬ Blanks entry ∧
    ∀ name url, entry = name ++ '=' :: url → '=' ∉ name → Blanks name ∨ Blanks url

/-! ## Reading entries -/

/-- The blanks at the ends of an entry are told if it is no partner, and do not matter if it is one. -/
theorem partner_trim (entry : List Char) : partner (Text.trim entry) =
    match Text.cut? '=' entry with
    | some (name, url) =>
      if (Text.trim name).isEmpty || (Text.trim url).isEmpty then partner.bad (Text.trim entry)
      else .ok ⟨.ofList (Text.trim name), .ofList (Text.trim url)⟩
    | none => partner.bad (Text.trim entry) := by
  cases hcut : Text.cut? '=' entry with
  | none =>
    have hnot : '=' ∉ Text.trim entry := fun h =>
      Text.not_mem_of_cut?_none hcut (Text.mem_of_mem_trim h)
    rw [partner, Text.cut?_eq_none hnot]
  | some parts =>
    obtain ⟨name, url⟩ := parts
    have htrim : Text.trim entry = Text.trimStart name ++ '=' :: Text.trimEnd url := by
      rw [Text.eq_append_of_cut? hcut]
      exact Text.trim_append_cons rfl name url
    have hnot : '=' ∉ Text.trimStart name := fun h =>
      Text.not_mem_of_cut? hcut ((List.dropWhile_sublist _).subset h)
    rw [htrim, partner, Text.cut?_append _ hnot]
    simp only [Text.trim_trimStart, Text.trim_trimEnd]

theorem partner_of_writes {p : PartnerApi} (hp : Writable p) {entry : List Char} (h : Writes p entry) :
    partner (Text.trim entry) = .ok p := by
  obtain ⟨before, behind, ahead, after, ⟨hbefore, hbehind⟩, ⟨hahead, hafter⟩, rfl⟩ := h
  have hnot : '=' ∉ before ++ p.name.toList ++ behind := by
    simp only [List.mem_append, not_or]
    exact ⟨⟨Text.not_mem_of_blanks hbefore rfl, hp.name_mem.2⟩, Text.not_mem_of_blanks hbehind rfl⟩
  have hname : Text.trim (before ++ p.name.toList ++ behind) = p.name.toList := by
    rw [Text.trim_append_right hbehind, Text.trim_append_left hbefore, hp.name_trim]
  have hurl : Text.trim (ahead ++ p.baseUrl.toList ++ after) = p.baseUrl.toList := by
    rw [Text.trim_append_right hafter, Text.trim_append_left hahead, hp.url_trim]
  have hfull : (p.name.toList.isEmpty || p.baseUrl.toList.isEmpty) = false := by
    simp [hp.name_ne, hp.url_ne]
  rw [partner_trim, Text.cut?_append _ hnot]
  simp only [hname, hurl, hfull, Bool.false_eq_true, if_false, String.ofList_toList]

theorem not_blanks_of_writes {p : PartnerApi} {entry : List Char} (h : Writes p entry) :
    ¬ Blanks entry := by
  obtain ⟨before, behind, ahead, after, -, -, rfl⟩ := h
  exact fun hblank => Text.not_mem_of_blanks hblank (c := '=') rfl (by simp)

/-- An entry that is not blank spoils the setting exactly if it is not read as a partner. -/
theorem spoils_iff {entry : List Char} (hentry : ¬ Blanks entry) :
    Spoils entry ↔ partner (Text.trim entry) = partner.bad (Text.trim entry) := by
  rw [partner_trim]
  cases hcut : Text.cut? '=' entry with
  | none =>
    refine iff_of_true ⟨hentry, fun name url h _ => ?_⟩ rfl
    exact absurd (h ▸ by simp) (Text.not_mem_of_cut?_none hcut)
  | some parts =>
    obtain ⟨name, url⟩ := parts
    have hparts : Spoils entry ↔ Blanks name ∨ Blanks url := by
      constructor
      · intro h
        exact h.2 name url (Text.eq_append_of_cut? hcut) (Text.not_mem_of_cut? hcut)
      · refine fun h => ⟨hentry, fun name' url' he hnot => ?_⟩
        rw [he, Text.cut?_append _ hnot] at hcut
        cases hcut
        exact h
    have hempty : (Text.trim name).isEmpty || (Text.trim url).isEmpty ↔ Blanks name ∨ Blanks url := by
      rw [Bool.or_eq_true, List.isEmpty_iff, List.isEmpty_iff, Text.trim_eq_nil_iff,
        Text.trim_eq_nil_iff]
    dsimp only
    rw [hparts, ← hempty]
    split
    · next h => exact iff_of_true h rfl
    · next h => exact iff_of_false h (by simp [partner.bad])

/-! ## Reading all of them -/

def pieces (entries : List (List Char)) : List (List Char) :=
  (entries.map Text.trim).filter (!·.isEmpty)

theorem pieces_cons (entry : List Char) (entries : List (List Char)) : pieces (entry :: entries) =
    if Blanks entry then pieces entries else Text.trim entry :: pieces entries := by
  rw [pieces, List.map_cons, List.filter_cons]
  by_cases h : Blanks entry
  · rw [if_pos h, Text.trim_eq_nil_iff.mpr h]
    rfl
  · have hne : Text.trim entry ≠ [] := fun he => h (Text.trim_eq_nil_iff.mp he)
    rw [if_neg h, if_pos (by simpa using hne)]
    rfl

theorem mem_pieces {piece : List Char} {entries : List (List Char)} :
    piece ∈ pieces entries ↔ ∃ entry ∈ entries, ¬ Blanks entry ∧ Text.trim entry = piece := by
  simp only [pieces, List.mem_filter, List.mem_map, Bool.not_eq_true', List.isEmpty_eq_false_iff,
    ← Text.trim_eq_nil_iff]
  constructor
  · intro ⟨⟨entry, hmem, htrim⟩, hne⟩
    subst htrim
    exact ⟨entry, hmem, hne, rfl⟩
  · intro ⟨entry, hmem, hne, htrim⟩
    subst htrim
    exact ⟨⟨entry, hmem, rfl⟩, hne⟩

theorem partnerList_intercalate {entries : List (List Char)} (h : ∀ e ∈ entries, ',' ∉ e) :
    partnerList ([','].intercalate entries) = (pieces entries).mapM partner := by
  by_cases hnil : entries = []
  · subst hnil
    rfl
  · rw [partnerList, List.splitOn_intercalate ',' h hnil]
    rfl

theorem mapM_pieces {ps : List PartnerApi} {entries : List (List Char)} (h : WritesAll ps entries)
    (hps : ∀ p ∈ ps, Writable p) : (pieces entries).mapM partner = .ok ps := by
  induction h with
  | nil => rfl
  | blank hblank _ ih => rw [pieces_cons, if_pos hblank, ih hps]
  | @partner p ps entry entries hentry _ ih =>
    rw [pieces_cons, if_neg (not_blanks_of_writes hentry), List.mapM_cons,
      partner_of_writes (hps p List.mem_cons_self) hentry, ih fun q hq => hps q (List.mem_cons_of_mem p hq)]
    rfl

theorem not_mem_of_writesAll {ps : List PartnerApi} {entries : List (List Char)}
    (h : WritesAll ps entries) (hps : ∀ p ∈ ps, Writable p) : ∀ e ∈ entries, ',' ∉ e := by
  induction h with
  | nil => exact fun _ h => absurd h List.not_mem_nil
  | blank hblank _ ih => exact List.forall_mem_cons.mpr ⟨Text.not_mem_of_blanks hblank rfl, ih hps⟩
  | @partner p ps entry entries hentry _ ih =>
    obtain ⟨hp, hps⟩ := List.forall_mem_cons.mp hps
    refine List.forall_mem_cons.mpr ⟨?_, ih hps⟩
    obtain ⟨before, behind, ahead, after, ⟨hbefore, hbehind⟩, ⟨hahead, hafter⟩, rfl⟩ := hentry
    simp only [List.mem_append, List.mem_cons, not_or]
    exact ⟨⟨⟨Text.not_mem_of_blanks hbefore rfl, hp.name_mem.1⟩, Text.not_mem_of_blanks hbehind rfl⟩,
      by decide, ⟨Text.not_mem_of_blanks hahead rfl, hp.url_mem⟩, Text.not_mem_of_blanks hafter rfl⟩

theorem partner_eq_ok {piece : List Char} {p : PartnerApi} (h : partner piece = .ok p) : p.name ≠ "" := by
  unfold partner at h
  split at h
  · next name url _ =>
    split at h
    · cases h
    · next hfull =>
      obtain rfl := Except.ok.inj h
      intro hname
      have hempty : Text.trim name = [] := by
        simpa using congrArg String.toList hname
      rw [hempty] at hfull
      exact hfull rfl
  · cases h

theorem name_ne_of_mapM {l : List (List Char)} {ps : List PartnerApi} (h : l.mapM partner = .ok ps) :
    ∀ p ∈ ps, p.name ≠ "" := by
  induction l generalizing ps with
  | nil =>
    obtain rfl := Except.ok.inj h
    exact fun _ h => absurd h List.not_mem_nil
  | cons x l ih =>
    rw [List.mapM_cons] at h
    cases hx : partner x with
    | error e =>
      rw [hx] at h
      cases h
    | ok p =>
      cases hl : l.mapM partner with
      | error e =>
        rw [hx, hl] at h
        cases h
      | ok qs =>
        rw [hx, hl] at h
        obtain rfl := Except.ok.inj h
        exact List.forall_mem_cons.mpr ⟨partner_eq_ok hx, ih hl⟩

/-- The first piece that is no partner is the one that is told. -/
theorem exists_bad_of_mapM {l : List (List Char)} (h : ∃ x ∈ l, partner x = partner.bad x) :
    ∃ x ∈ l, partner x = partner.bad x ∧ l.mapM partner = .error ⟨"PARTNER_PROVIDERS", .ofList x⟩ := by
  induction l with
  | nil =>
    obtain ⟨x, hx, -⟩ := h
    cases hx
  | cons y l ih =>
    rw [List.mapM_cons]
    cases hy : partner y with
    | error e =>
      have hbad : partner y = partner.bad y := by
        unfold partner at hy ⊢
        split
        · split
          · rfl
          · next hcut hfull => simp [hcut, hfull] at hy
        · rfl
      refine ⟨y, List.mem_cons_self, hbad, ?_⟩
      rw [hbad] at hy
      rw [← hy]
      rfl
    | ok p =>
      obtain ⟨x, hx, hbad⟩ := h
      rcases List.mem_cons.mp hx with rfl | hx
      · rw [hy] at hbad
        cases hbad
      · obtain ⟨z, hz, hbad, herror⟩ := ih ⟨x, hx, hbad⟩
        refine ⟨z, List.mem_cons_of_mem y hz, hbad, ?_⟩
        rw [herror]
        rfl

/-! ## The setting among the others -/

def listed (env : Environment) : Except Error (List PartnerApi) :=
  match env "PARTNER_PROVIDERS" with
  | some v => partnerList v.toList
  | none => .ok []

/-- The variable is not set, or what it is set to can be read and is fit. -/
def Usable {α : Type} (env : Environment) (key : String) (read? : List Char → Option α)
    (Fit : α → Prop) : Prop :=
  ∀ v, env key = some v → ∃ a, read? (Text.trim v.toList) = some a ∧ Fit a

structure OthersUsable (env : Environment) : Prop where
  batchSize : Usable env "CALENDAR_BATCH_SIZE" word? (· ≠ 0)
  refresh : Usable env "CALENDAR_REFRESH_INTERVAL_SECS" word? fun _ => True
  limit : Usable env "PARTNER_TIMEOUT_MS" word? fun _ => True
  radius : Usable env "DEFAULT_SEARCH_RADIUS" Decimal.float? fun r => r.isFinite = true ∧ ¬ r ≤ 0

variable {env : Environment} {s : Settings}

theorem value_of_usable {α : Type} {key : String} {read? : List Char → Option α} {Fit : α → Prop}
    (h : Usable env key read? Fit) (default : α) (hdefault : Fit default) :
    ∃ a, value env key default read? = .ok a ∧ Fit a := by
  cases hv : env key with
  | none => exact ⟨default, by simp only [value, hv], hdefault⟩
  | some v =>
    obtain ⟨a, hread, hfit⟩ := h v hv
    exact ⟨a, by simp only [value, hv, hread], hfit⟩

/-- Where the other variables can be used, the partners decide. -/
theorem load_of_usable (h : OthersUsable env) :
    (∀ ps, listed env = .ok ps → ∃ s, load env = .ok s ∧ s.partners = ps) ∧
      ∀ e, listed env = .error e → load env = .error e := by
  obtain ⟨batchSize, hbatch, hpositive⟩ := value_of_usable h.batchSize 64 (by decide)
  obtain ⟨refresh, hrefresh, -⟩ := value_of_usable h.refresh 900 trivial
  obtain ⟨limit, hlimit, -⟩ := value_of_usable h.limit Listing.standardLimit trivial
  obtain ⟨radius, hradius, hfinite, habove⟩ :=
    value_of_usable h.radius Geo.Defaults.standard.radius (by decide)
  have hfit : (!radius.isFinite || decide (radius ≤ 0)) = false := by simp [hfinite, habove]
  unfold load listed
  simp only [hbatch, hrefresh, hlimit, hradius, bind, Except.bind, hpositive, hfit, if_false,
    Bool.false_eq_true]
  cases env "PARTNER_PROVIDERS" with
  | none =>
    refine ⟨fun ps hps => ⟨_, rfl, Except.ok.inj hps⟩, fun e he => ?_⟩
    cases he
  | some v =>
    dsimp only
    refine ⟨fun ps hps => ?_, fun e he => ?_⟩
    · rw [hps]
      exact ⟨_, rfl, rfl⟩
    · rw [he]

theorem listed_of_load (h : load env = .ok s) : listed env = .ok s.partners := by
  unfold load at h
  obtain ⟨batchSize, -, h⟩ := of_bind_eq_ok h
  dsimp only at h
  split at h
  · cases h
  obtain ⟨refresh, -, h⟩ := of_bind_eq_ok h
  obtain ⟨limit, -, h⟩ := of_bind_eq_ok h
  obtain ⟨radius, -, h⟩ := of_bind_eq_ok h
  split at h
  · cases h
  unfold listed
  cases hv : env "PARTNER_PROVIDERS" with
  | some v =>
    rw [hv] at h
    obtain ⟨ps, hps, h⟩ := of_bind_eq_ok h
    obtain rfl := Except.ok.inj h
    exact hps
  | none =>
    rw [hv] at h
    obtain rfl := Except.ok.inj h
    rfl

theorem name_ne_of_load (h : load env = .ok s) : ∀ p ∈ s.partners, p.name ≠ "" := by
  have hlisted := listed_of_load h
  unfold listed at hlisted
  split at hlisted
  · exact name_ne_of_mapM hlisted
  · rw [← Except.ok.inj hlisted]
    exact fun _ h => absurd h List.not_mem_nil

/-! ## Registration -/

theorem nameError?_of_registrable (seen : List String) {names : List String}
    (h : Listing.Registrable names) (hseen : ∀ n ∈ names, n ∉ seen) : Registry.nameError? seen names = none := by
  induction names generalizing seen with
  | nil => rfl
  | cons n rest ih =>
    obtain ⟨hall, hnodup⟩ := h
    obtain ⟨hn, hrest⟩ := List.nodup_cons.mp hnodup
    obtain ⟨hfit, hfits⟩ := List.forall_mem_cons.mp hall
    obtain ⟨hnew, hnews⟩ := List.forall_mem_cons.mp hseen
    rw [Registry.nameError?, if_neg (not_or.mpr hfit), if_neg hnew]
    refine ih _ ⟨hfits, hrest⟩ fun m hm => ?_
    simp only [List.mem_cons, not_or]
    exact ⟨fun he => hn (he ▸ hm), hnews m hm⟩

theorem exists_registry_iff {ps : List Listing.Partner} :
    (∃ r, Registry.ofPartners ps = .ok r) ↔ Listing.Registrable (ps.map (·.name)) := by
  constructor
  · intro ⟨r, hr⟩
    rw [← Registry.partners_of_ofPartners hr]
    exact r.registrable
  · intro h
    have hnone := nameError?_of_registrable [] h (by simp)
    unfold Registry.ofPartners
    split
    · next e he =>
      rw [hnone] at he
      cases he
    · exact ⟨_, rfl⟩

/-- With a user agent that can be sent, the services are set up as soon as the partners are registered. -/
theorem assemble_eq_ok_iff (hagent : Http.isHeaderValue s.geocoding.userAgent = true) {r : Registry} :
    assemble s = .ok r ↔ Registry.ofPartners s.registered = .ok r := by
  have hcheck : s.geocoding.check = .ok () := by rw [Remote.GeocodingService.check, if_pos hagent]
  unfold assemble
  rw [hcheck]
  cases Registry.ofPartners s.registered with
  | error e => exact iff_of_false (by intro h; cases h) (by intro h; cases h)
  | ok r' =>
    constructor
    · intro h
      exact congrArg Except.ok (Except.ok.inj h)
    · intro h
      exact congrArg Except.ok (Except.ok.inj h)

theorem names_registered (s : Settings) : s.registered.map (·.name) = s.partners.map (·.name) := by
  rw [registered, List.map_map]
  rfl

/-- However partners are written, they are read as they are, in their order, as long as the other variables
can be used; and an entry that spoils the setting is told, whatever else it has. The partners that were read
are registered under their names exactly if these are different and have no colon in them, and then an
identifier that begins with a name and a colon leads to the partner of that name. -/
theorem partners_as_written :
    (∀ (env : Environment) (ps : List PartnerApi) (entries : List (List Char)), OthersUsable env →
      (∀ p ∈ ps, Writable p) → WritesAll ps entries →
      env "PARTNER_PROVIDERS" = some (.ofList ([','].intercalate entries)) →
      ∃ s, load env = .ok s ∧ s.partners = ps) ∧
    (∀ (env : Environment) (text : String), env "PARTNER_PROVIDERS" = some text →
      (∃ e ∈ text.toList.splitOn ',', Spoils e) →
      (∃ error, load env = .error error) ∧
      (OthersUsable env → ∃ e ∈ text.toList.splitOn ',', Spoils e ∧
        load env = .error ⟨"PARTNER_PROVIDERS", .ofList (Text.trim e)⟩)) ∧
    ∀ (env : Environment) (s : Settings), load env = .ok s →
      Http.isHeaderValue s.geocoding.userAgent = true →
      ((∃ r, assemble s = .ok r) ↔
        (s.partners.map (·.name)).Nodup ∧ ∀ p ∈ s.partners, ':' ∉ p.name.toList) ∧
      ∀ r, assemble s = .ok r → r.partners.map (·.name) = s.partners.map (·.name) ∧
        ∀ p ∈ s.partners, ∀ id, r.parse (p.name ++ ":" ++ id) = ⟨.partner p.name, id⟩ := by
  refine ⟨?_, ?_, ?_⟩
  · intro env ps entries hothers hps hwrites hset
    refine (load_of_usable hothers).1 ps ?_
    rw [listed, hset]
    dsimp only
    rw [String.toList_ofList, partnerList_intercalate (not_mem_of_writesAll hwrites hps)]
    exact mapM_pieces hwrites hps
  · intro env text hset ⟨e, he, hspoils⟩
    obtain ⟨piece, hmem, hbad, herror⟩ := exists_bad_of_mapM
      ⟨Text.trim e, mem_pieces.mpr ⟨e, he, hspoils.1, rfl⟩, (spoils_iff hspoils.1).mp hspoils⟩
    obtain ⟨first, hfirst, hblank, rfl⟩ := mem_pieces.mp hmem
    have hlisted : listed env = .error ⟨"PARTNER_PROVIDERS", .ofList (Text.trim first)⟩ := by
      rw [listed, hset]
      exact herror
    constructor
    · cases hload : load env with
      | error error => exact ⟨error, rfl⟩
      | ok s =>
        have hok := listed_of_load hload
        rw [hlisted] at hok
        cases hok
    · intro hothers
      exact ⟨first, hfirst, (spoils_iff hblank).mpr hbad, (load_of_usable hothers).2 _ hlisted⟩
  · intro env s hload hagent
    have hnames := names_registered s
    constructor
    · simp only [assemble_eq_ok_iff hagent, exists_registry_iff, hnames, Listing.Registrable,
        List.forall_mem_map, and_comm (b := (s.partners.map (·.name)).Nodup)]
      refine and_congr_right' ⟨fun h p hp => (h p hp).2, fun h p hp => ⟨name_ne_of_load hload p hp, h p hp⟩⟩
    · intro r hr
      have hpartners := Registry.partners_of_ofPartners ((assemble_eq_ok_iff hagent).mp hr)
      refine ⟨by rw [hpartners, hnames], fun p hp id => ?_⟩
      have hmem : p.name ∈ r.names := by
        rw [Registry.names, hpartners, hnames]
        exact List.mem_map_of_mem hp
      have htext : (Reference.mk (.partner p.name) id).text = p.name ++ ":" ++ id := by
        refine String.toList_injective ?_
        simp [Reference.text, separator]
      rw [← htext, Registry.parse_text hmem]

def twoPartners : Environment := fun key =>
  if key = "PARTNER_PROVIDERS" then some " vrbo = https://vrbo.test/?a=b ,,hipcamp=https://hipcamp.test, "
  else if key = "CALENDAR_BATCH_SIZE" then some " 8 "
  else none

def vrbo : PartnerApi := ⟨"vrbo", "https://vrbo.test/?a=b"⟩

def hipcamp : PartnerApi := ⟨"hipcamp", "https://hipcamp.test"⟩

def halfPartner : Environment := fun key =>
  if key = "PARTNER_PROVIDERS" then some "vrbo=https://vrbo.test, hipcamp= " else none

theorem partners_as_written_two :
    OthersUsable twoPartners ∧
      (∃ s, load twoPartners = .ok s ∧ s.partners = [vrbo, hipcamp] ∧
        ∃ r, assemble s = .ok r ∧ r.parse "vrbo:a:b" = ⟨.partner "vrbo", "a:b"⟩) ∧
      ∃ error, load halfPartner = .error error := by
  obtain ⟨hread, hrefused, hregistered⟩ := partners_as_written
  have hothers : OthersUsable twoPartners := by
    constructor
    · intro v hv
      obtain rfl := Option.some.inj hv
      exact ⟨8, by decide +kernel, by decide⟩
    all_goals
      intro v hv
      cases hv
  have hwritable : ∀ p ∈ [vrbo, hipcamp], Writable p := by
    intro p hp
    simp only [List.mem_cons, List.not_mem_nil, or_false] at hp
    rcases hp with rfl | rfl <;> constructor <;> decide +kernel
  have hwrites : WritesAll [vrbo, hipcamp] [" vrbo = https://vrbo.test/?a=b ".toList, [],
      "hipcamp=https://hipcamp.test".toList, [' ']] := by
    refine .partner ⟨[' '], [' '], [' '], [' '], by decide, by decide, by decide +kernel⟩ (.blank (by decide) ?_)
    exact .partner ⟨[], [], [], [], by decide, by decide, by decide +kernel⟩ (.blank (by decide) .nil)
  obtain ⟨s, hload, hpartners⟩ := hread twoPartners _ _ hothers hwritable hwrites (by decide +kernel)
  have hagent : Http.isHeaderValue s.geocoding.userAgent = true := by
    have hany : (load twoPartners).toOption.any (Http.isHeaderValue ·.geocoding.userAgent) = true := by
      decide +kernel
    rw [hload] at hany
    exact hany
  obtain ⟨hfit, hleads⟩ := hregistered twoPartners s hload hagent
  obtain ⟨r, hr⟩ := hfit.mpr (by rw [hpartners]; decide)
  obtain ⟨-, hleads⟩ := hleads r hr
  refine ⟨hothers, ⟨s, hload, hpartners, r, hr, ?_⟩, ?_⟩
  · exact hleads vrbo (by rw [hpartners]; exact List.mem_cons_self) "a:b"
  · refine (hrefused halfPartner _ rfl ⟨" hipcamp= ".toList, by decide +kernel, by decide, ?_⟩).1
    intro name url he hnot
    have hcut := Text.cut?_append url hnot
    rw [← he] at hcut
    obtain ⟨rfl, rfl⟩ : " hipcamp".toList = name ∧ [' '] = url := by
      have hhere : Text.cut? '=' " hipcamp= ".toList = some (" hipcamp".toList, [' ']) := by
        decide +kernel
      rw [hhere] at hcut
      cases hcut
      exact ⟨rfl, rfl⟩
    exact .inr (by decide)

end Lodging.Settings
