import WordLint.Proofs.Markup.ElementEnd

/-!
# The content of raw elements

A start tag may open an element with raw content, such as a script. What looks like markup in it is none: up
to the first end tag of the element the content is cut into texts (`parts_raw`), and these are heard as one.

**The law** (`raw_content`): behind the event of such a start tag comes at most one text, with all that stands
before the first end tag of the element, and then the event of that end tag. If there is no end tag, no event
but texts comes any more. Whether some of the content is then silent, and to which event it belongs, is said
by the law on tags and comments.
-/

namespace WordLint.Markup

variable {name : String}

/-! ## The parts of raw content -/

/-- A cut at or behind the end of a front is a cut of what follows the front. -/
theorem cut_behind {front content body more : List Char} (hcut : front ++ content = body ++ more)
    (hlength : front.length ≤ body.length) : ∃ body', body = front ++ body' ∧ content = body' ++ more := by
  have hprefix : front <+: body :=
    List.prefix_of_prefix_length_le (List.prefix_append _ _) (hcut.symm ▸ List.prefix_append _ _) hlength
  obtain ⟨body', rfl⟩ := hprefix
  rw [List.append_assoc] at hcut
  exact ⟨body', rfl, List.append_cancel_left hcut⟩

theorem EndsFirst.behind {front content body tag rest : List Char} (h : EndsFirst name content body tag rest)
    (hnone : NoneBefore name front.length (front ++ content)) :
    EndsFirst name (front ++ content) (front ++ body) tag rest where
  cut := by rw [h.cut]; simp
  isEndTag := h.isEndTag
  first := by
    intro body' tag' rest' hcut htag
    have hlength := hnone body' tag' rest' hcut htag
    rw [List.append_assoc] at hcut
    obtain ⟨body', rfl, hcontent⟩ := cut_behind hcut hlength
    rw [List.length_append, List.length_append]
    exact Nat.add_le_add_left (h.first body' tag' rest' (by rw [hcontent, List.append_assoc]) htag) _

theorem NeverEnds.behind {front content : List Char} (h : NeverEnds name content)
    (hnone : NoneBefore name front.length (front ++ content)) : NeverEnds name (front ++ content) := by
  intro body tag rest hcut htag
  have hlength := hnone body tag rest hcut htag
  rw [List.append_assoc] at hcut
  obtain ⟨body', -, hcontent⟩ := cut_behind hcut hlength
  exact h body' tag rest (by rw [hcontent, List.append_assoc]) htag

/-- The parts in front of an end tag: texts, which make up the body. -/
structure Body (body : List Char) (texts : List Part) : Prop where
  chars : texts.flatMap (·.chars) = body
  text : ∀ part ∈ texts, part.role = .text ∧ part.chars ≠ []

theorem Body.tail {body : List Char} {t : Part} {texts : List Part} (h : Body body (t :: texts)) :
    Body (texts.flatMap (·.chars)) texts where
  chars := rfl
  text := (List.forall_mem_cons.mp h.text).2

theorem Body.cut {body : List Char} {t : Part} {texts : List Part} (h : Body body (t :: texts)) :
    t.chars ++ texts.flatMap (·.chars) = body := by
  rw [← h.chars, List.flatMap_cons]

/-- **The parts of raw content.** Up to the first end tag of the element there are texts only, and behind it
ordinary content follows; without an end tag nothing but texts and silence comes to the end. -/
theorem parts_raw (hname : name ∈ rawElements) (content : List Char) :
    (∃ body tag rest texts, EndsFirst name content body tag rest ∧ Body body texts ∧
      (parts (some name) content).1 = texts ++ ⟨.endTag name, tag⟩ :: (parts none rest).1) ∨
    NeverEnds name content ∧ ∀ part ∈ (parts (some name) content).1, part.role.marks = false := by
  induction hlength : content.length using Nat.strong_induction_on generalizing content with
  | h length ih =>
    cases content with
    | nil =>
      rw [parts_nil]
      refine Or.inr ⟨?_, List.forall_mem_nil _⟩
      rintro body tag rest hcut ⟨before, letters, after, rfl, -⟩
      simp at hcut
    | cons c rest =>
      rcases ofRaw_cases hname c rest with
        ⟨hraw, hnever⟩ | ⟨n, hraw, hnone⟩ | ⟨tag, later, hcut, htag, hraw⟩
      · have hfirst : Piece.first (some name) c rest = .ok (⟨.silent, rest.length⟩, some name) := by
          rw [Piece.first, hraw]
        rw [parts_cons hfirst, List.drop_length, parts_nil]
        refine Or.inr ⟨hnever, List.forall_mem_singleton.mpr rfl⟩
      · have hfirst : Piece.first (some name) c rest = .ok (⟨.text, n⟩, some name) := by
          rw [Piece.first, hraw]
        have hwhole : c :: rest = c :: rest.take n ++ rest.drop n := by
          rw [List.cons_append, List.take_append_drop]
        have hbefore : NoneBefore name (c :: rest.take n).length (c :: rest.take n ++ rest.drop n) := by
          rw [← hwhole]
          intro body tag later hcut htag
          refine Nat.le_trans ?_ (hnone body tag later hcut htag)
          rw [List.length_cons, List.length_take]
          omega
        have hless : (rest.drop n).length < length := by
          rw [← hlength, List.length_drop, List.length_cons]
          omega
        rw [parts_cons hfirst, hwhole]
        rcases ih _ hless _ rfl with
          ⟨body, tag, later, texts, hends, hbody, hparts⟩ | ⟨hnever, hparts⟩
        · refine Or.inl
            ⟨_, tag, later, ⟨.text, c :: rest.take n⟩ :: texts, hends.behind hbefore, ⟨?_, ?_⟩, ?_⟩
          · rw [List.flatMap_cons, hbody.chars]
          · exact List.forall_mem_cons.mpr ⟨⟨rfl, List.cons_ne_nil _ _⟩, hbody.text⟩
          · rw [hparts, List.cons_append]
        · exact Or.inr ⟨hnever.behind hbefore, List.forall_mem_cons.mpr ⟨rfl, hparts⟩⟩
      · have hfirst : Piece.first (some name) c rest = .ok (⟨.endTag name, tag.length - 1⟩, none) := by
          rw [Piece.first, hraw]
        refine Or.inl ⟨[], tag, later, [], ⟨by rw [List.nil_append]; exact hcut, htag, ?_⟩, ⟨rfl, ?_⟩, ?_⟩
        · exact fun body' _ _ _ _ => Nat.zero_le _
        · exact List.forall_mem_nil _
        · obtain ⟨inner, rfl⟩ := htag.cons
          obtain ⟨rfl, rfl⟩ := List.cons.inj hcut
          rw [parts_cons hfirst, List.length_cons, Nat.add_sub_cancel, List.append_eq, List.take_left,
            List.drop_left]
          rfl

/-! ## The events of raw content -/

/-- The parts behind a tag or comment are those of what follows it. -/
theorem parts_behind {inside : Inside} {cs : List Char} (h : (parts inside cs).2 = none) :
    ∀ {earlier part later}, (parts inside cs).1 = earlier ++ part :: later → part.role.marks = true →
      later = (parts part.role.inside (later.flatMap (·.chars))).1 := by
  induction inside, cs using parts.induct with
  | case1 inside =>
    intro earlier part later hparts
    rw [parts_nil] at hparts
    exact absurd hparts (by simp)
  | case2 inside c rest fault hfirst =>
    rw [parts_fault hfirst] at h
    cases h
  | case3 inside c rest piece next hfirst ih =>
    intro earlier part later hparts hmarks
    rw [parts_cons hfirst] at hparts h
    cases earlier with
    | nil =>
      obtain ⟨rfl, rfl⟩ := List.cons.inj hparts
      obtain ⟨-, -, rfl⟩ := first_closes hfirst hmarks
      rw [parts_chars_of_complete h]
    | cons q earlier => exact ih h (List.cons.inj hparts).2 hmarks

/-- A part that is not silent is reported where it stands. -/
theorem mem_reports {part : Part} (hloud : part.role ≠ .silent) (later : List Part) :
    ∀ (earlier : List Part) (front : List Char),
      ⟨front ++ earlier.flatMap (·.chars), part.role, part.chars, later.flatMap (·.chars)⟩ ∈
        reports front (earlier ++ part :: later) := by
  intro earlier
  induction earlier with
  | nil =>
    intro front
    rw [List.flatMap_nil, List.append_nil]
    exact mem_reports_cons.mpr (Or.inl ⟨hloud, rfl⟩)
  | cons q earlier ih =>
    intro front
    rw [List.flatMap_cons, ← List.append_assoc]
    exact mem_reports_cons.mpr (Or.inr (ih (front ++ q.chars)))

/-- The event of a text that starts behind a front, when there is any. -/
def textBehind (front text : List Char) : List Event :=
  if text = [] then [] else [Open.complete ⟨Place.reached front, .text, text⟩]

/-- An open text takes in the texts that follow it. -/
theorem assembled_texts {q : Part} (hq : q.role.marks = true) (more : List Part) {front body : List Char}
    {texts : List Part} (hbody : Body body texts) :
    ∀ text, assembled (Place.reached (front ++ text)) (some ⟨Place.reached front, .text, text⟩)
        (texts ++ q :: more) none =
      Open.complete ⟨Place.reached front, .text, text ++ body⟩ ::
        assembled (Place.reached (front ++ (text ++ body) ++ q.chars))
          (some ⟨Place.reached (front ++ (text ++ body)), q.role, q.chars⟩) more none := by
  induction texts generalizing body with
  | nil =>
    intro text
    obtain rfl : [] = body := hbody.chars
    rw [List.nil_append, assembled_opens (continues_of_marks hq _), ← Place.reached_append, List.append_nil]
    rfl
  | cons t texts ih =>
    intro text
    have ht := (hbody.text t List.mem_cons_self).1
    have hcontinues : continues (some ⟨Place.reached front, .text, text⟩) t.role = true := by
      rw [ht]
      rfl
    rw [List.cons_append, assembled_joins hcontinues, grown_some, ← Place.reached_append, List.append_assoc,
      ih hbody.tail, List.append_assoc text, hbody.cut]

/-- Behind an open tag, the parts of raw content make one text, if any, and then the end tag. -/
theorem assembled_body {o : Open} (ho : o.role.marks = true) {q : Part} (hq : q.role.marks = true)
    (more : List Part) {front body : List Char} {texts : List Part} (hbody : Body body texts) :
    assembled (Place.reached front) (some o) (texts ++ q :: more) none =
      o.complete :: (textBehind front body ++
        assembled (Place.reached (front ++ body ++ q.chars))
          (some ⟨Place.reached (front ++ body), q.role, q.chars⟩) more none) := by
  cases texts with
  | nil =>
    obtain rfl : [] = body := hbody.chars
    rw [List.nil_append, assembled_opens (continues_of_marks hq _), ← Place.reached_append, List.append_nil]
    rfl
  | cons t texts =>
    obtain ⟨ht, hne⟩ := hbody.text t List.mem_cons_self
    have hcontinues : continues (some o) t.role = false := by
      rw [ht, continues_eq_false_iff]
      refine ⟨Role.noConfusion, ?_⟩
      rintro _ ⟨⟩ ⟨htext, -⟩
      rw [htext] at ho
      cases ho
    have hbody_ne : body ≠ [] := by
      rw [← hbody.cut]
      exact List.append_ne_nil_of_left_ne_nil hne _
    rw [List.cons_append, assembled_opens hcontinues, ← Place.reached_append, ht,
      assembled_texts hq more hbody.tail, hbody.cut, textBehind, if_neg hbody_ne]
    rfl

/-- Behind an open event, parts that are texts or silent make texts only. -/
theorem assembled_no_marks {ps : List Part} (hps : ∀ part ∈ ps, part.role.marks = false) :
    ∀ (place : Place) (o : Open), ∃ e es, assembled place (some o) ps none = e :: es ∧
      e.kind = o.role.kind ∧ ∀ f ∈ es, f.kind = .text := by
  induction ps with
  | nil => exact fun place o => ⟨_, [], rfl, rfl, fun f hf => nomatch hf⟩
  | cons part rest ih =>
    intro place o
    have hpart := hps part List.mem_cons_self
    have hrest := ih fun p hp => hps p (List.mem_cons_of_mem _ hp)
    cases hcontinues : continues (some o) part.role with
    | true =>
      rw [assembled_joins hcontinues, grown_some]
      exact hrest _ ⟨o.place, o.role, o.chars ++ part.chars⟩
    | false =>
      obtain ⟨e, es, hes, he, htexts⟩ :=
        hrest (part.chars.foldl Place.after place) ⟨place, part.role, part.chars⟩
      rw [assembled_opens hcontinues, hes]
      refine ⟨o.complete, e :: es, rfl, rfl, List.forall_mem_cons.mpr ⟨?_, htexts⟩⟩
      rw [he]
      exact part.role.kind_eq_text_iff.mpr hpart

/-- An event starts behind this front of the document. -/
def StartsBehind (front : List Char) (e : Event) : Prop :=
  e.line = (Place.reached front).line ∧ e.col = (Place.reached front).col

/-- The role behind the event of a tag that opens a raw element. -/
theorem inside_of_opens {o : Open} {name : String} (hkind : o.complete.kind = .startTag)
    (hclose : o.complete.close = false) (helement : o.complete.element = some name)
    (hname : name ∈ rawElements) : o.role.inside = some name := by
  obtain ⟨place, role, chars⟩ := o
  cases role with
  | startTag element attributes close =>
    cases helement
    cases hclose
    exact if_pos (List.contains_iff_mem.mpr hname)
  | _ => cases hkind

/-- The event of a tag that opens a raw element is opened by the tag, and the events from there on are those
of the tag with the parts of raw content behind it. -/
theorem opened_by_tag {html : String} (hfault : (parts none html.toList).2 = none) {es fs : List Event}
    {e : Event} (hevents : assembled .start none (parts none html.toList).1 none = es ++ e :: fs)
    {name : String} (hkind : e.kind = .startTag) (hclose : e.close = false)
    (helement : e.element = some name) (hname : name ∈ rawElements) :
    ∃ r ∈ marks html, StartsBehind r.front e ∧ r.role.inside = some name ∧
      assembled (Place.reached (r.front ++ r.own)) (some ⟨Place.reached r.front, r.role, r.own⟩)
        (parts (some name) r.behind).1 none = e :: fs := by
  have hmark : e.kind ≠ .text := by
    rw [hkind]
    exact EventKind.noConfusion
  change assembled (Place.reached []) none _ none = _ at hevents
  rcases assembled_split _ hmark hevents with ⟨-, o, ho, -⟩ | ⟨earlier, part, later, hparts, hmarks, hlater⟩
  · cases ho
  rw [List.nil_append] at hlater
  obtain ⟨w, _, hopen⟩ := assembled_some_of_complete later
    (Place.reached (earlier.flatMap (·.chars) ++ part.chars))
    ⟨Place.reached (earlier.flatMap (·.chars)), part.role, part.chars⟩
  obtain ⟨rfl, -⟩ := List.cons.inj (hlater.symm.trans hopen)
  have hinside : part.role.inside = some name := inside_of_opens hkind hclose helement hname
  have hloud : part.role ≠ .silent := by
    intro hsilent
    rw [hsilent] at hmarks
    cases hmarks
  have hreport := mem_reports hloud later earlier []
  rw [List.nil_append, ← hparts] at hreport
  refine ⟨_, List.mem_filter.mpr ⟨hreport, hmarks⟩, ⟨rfl, rfl⟩, hinside, ?_⟩
  have hbehind := parts_behind hfault hparts hmarks
  rw [hinside] at hbehind
  rw [← hbehind]
  exact hlater

/-- **The content of a raw element is text.** Take the event of a tag that opens a raw element, in a document
that is read to its end. If an end tag of the element follows the tag, in letters of either case, then all
that stands before the first one is a single text, or there is nothing; the event of the end tag comes next,
and the event of the start tag holds just the tag. If no end tag follows, all later events are texts. -/
theorem raw_content (receiver html : String) (h : (read html).fault = none) {es fs : List Event} {e : Event}
    (hevents : Audience.heard receiver html = es ++ e :: fs) {name : String} (hkind : e.kind = .startTag)
    (hclose : e.close = false) (helement : e.element = some name) (hname : name ∈ rawElements) :
    ∃ r ∈ marks html, r.front ++ r.own ++ r.behind = html.toList ∧ StartsBehind r.front e ∧
      r.role.inside = some name ∧
      ((∃ body tag rest, EndsFirst name r.behind body tag rest ∧ e.raw.toList = r.own ∧
        ∃ stop later, fs = textBehind (r.front ++ r.own) body ++ stop :: later ∧
          StartsBehind (r.front ++ r.own ++ body) stop ∧ stop.kind = .endTag ∧ stop.element = some name) ∨
      NeverEnds name r.behind ∧ ∀ f ∈ fs, f.kind = .text) := by
  have hfault := (read_fault html).symm.trans h
  rw [Audience.heard_eq, read_events_eq, hfault] at hevents
  obtain ⟨r, hr, hstart, hinside, hlater⟩ := opened_by_tag hfault hevents hkind hclose helement hname
  have hmarks : r.role.marks = true := (List.mem_filter.mp hr).2
  refine ⟨r, hr, marks_cut hfault r hr, hstart, hinside, ?_⟩
  rcases parts_raw hname r.behind with ⟨body, tag, rest, texts, hends, hbody, hraw⟩ | ⟨hnever, hraw⟩
  · rw [hraw, assembled_body hmarks rfl _ hbody] at hlater
    obtain ⟨rfl, hfs⟩ := List.cons.inj hlater
    obtain ⟨w, more, hstop⟩ := assembled_some_of_complete (parts none rest).1
      (Place.reached (r.front ++ r.own ++ body ++ tag))
      ⟨Place.reached (r.front ++ r.own ++ body), .endTag name, tag⟩
    rw [hstop] at hfs
    exact Or.inl ⟨body, tag, rest, hends, String.toList_ofList, _, more, hfs.symm, ⟨rfl, rfl⟩, rfl, rfl⟩
  · obtain ⟨_, _, hes, -, htexts⟩ := assembled_no_marks hraw (Place.reached (r.front ++ r.own))
      ⟨Place.reached r.front, r.role, r.own⟩
    obtain ⟨-, rfl⟩ := List.cons.inj (hlater.symm.trans hes)
    exact Or.inr ⟨hnever, htexts⟩

/-- A script with a tag in it, and with an end tag that a long s keeps from being one. -/
theorem raw_content_long_s :
    let html := "<script>a<b></\u017Fcript></Script >c"
    let start : Event := ⟨.startTag, 1, 1, "<script>", some "script", [], false⟩
    let later : List Event :=
      [⟨.text, 1, 9, "a<b></\u017Fcript>", none, [], false⟩,
        ⟨.endTag, 1, 22, "</Script >", some "script", [], false⟩, ⟨.text, 1, 32, "c", none, [], false⟩]
    (read html).fault = none ∧ Audience.heard "r" html = [] ++ start :: later ∧ start.kind = .startTag ∧
      start.close = false ∧ start.element = some "script" ∧ "script" ∈ rawElements ∧
      ∃ r ∈ marks html, r.front ++ r.own ++ r.behind = html.toList ∧ StartsBehind r.front start ∧
        r.role.inside = some "script" ∧
        ((∃ body tag rest, EndsFirst "script" r.behind body tag rest ∧ start.raw.toList = r.own ∧
          ∃ stop more, later = textBehind (r.front ++ r.own) body ++ stop :: more ∧
            StartsBehind (r.front ++ r.own ++ body) stop ∧ stop.kind = .endTag ∧
            stop.element = some "script") ∨
        NeverEnds "script" r.behind ∧ ∀ f ∈ later, f.kind = .text) := by
  intro html start later
  have hread : read html = ⟨start :: later, none⟩ := by cbv
  have h : (read html).fault = none := by rw [hread]
  have hevents : Audience.heard "r" html = [] ++ start :: later := by
    rw [Audience.heard_eq, hread]
    rfl
  have hname : "script" ∈ rawElements := List.mem_cons_self
  exact ⟨h, hevents, rfl, rfl, rfl, hname, raw_content "r" html h hevents rfl rfl rfl hname⟩

end WordLint.Markup
