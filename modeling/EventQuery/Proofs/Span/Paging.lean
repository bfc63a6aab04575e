import EventQuery.Proofs.Service.Bodies
import EventQuery.Proofs.Span.Pages

/-!
Spans from the pages that are served.

* `Client.spansFrom_of_completes`, `Client.spansFrom_of_breaksOff`: what the loop over the
  pages gives, and which requests it makes.
* `Client.spansFrom_of_isBelow`: how two loops with different limits compare.
* `spans_follow_pages`: the same of a first call for the spans of a query.
-/

namespace EventQuery

/-! ### Requests for pages -/

namespace Client

lemma scheme_spanRequest (c : Client) (cursor : String) (limit : Option Nat) :
    (c.spanRequest cursor limit).url.scheme = c.base.scheme := by
  rw [← c.scheme_request .get ["query", cursor, "spans"] ""]
  cases limit <;> rfl

lemma path_spanRequest (c : Client) (cursor : String) (limit : Option Nat) :
    (c.spanRequest cursor limit).url.path = (c.resource ["query", cursor, "spans"]).path := by
  cases limit <;> rfl

/-- The requests for the page at a first cursor and for the pages that others lead on to. -/
def spanRequests (c : Client) (limit : Option Nat) (first : String) (pages : List SpanPage) :
    List Request :=
  (asked first pages).map fun cursor => c.spanRequest cursor limit

/-- The path of the last of these requests. -/
def lastSpanPath (c : Client) (first : String) (pages : List SpanPage) : String :=
  (c.resource ["query", (pages.filterMap SpanPage.onward).getLastD first, "spans"]).path.text

lemma lastSpanPath_nil (c : Client) (first : String) :
    c.lastSpanPath first [] = (c.resource ["query", first, "spans"]).path.text := rfl

lemma lastSpanPath_cons {c : Client} {page : SpanPage} {next : String}
    (hnext : page.onward = some next) (first : String) (more : List SpanPage) :
    c.lastSpanPath first (page :: more) = c.lastSpanPath next more := by
  rw [lastSpanPath, List.filterMap_cons_some hnext, List.getLastD_cons, lastSpanPath]

variable {c : Client} {limit : Option Nat} {n : Network}

/-- A page of spans is what the next reply comes to. -/
lemma spanPage_eq (hn : n.Delivers c) (cursor : String) (limit : Option Nat) :
    c.spanPage cursor limit n
      = (n.nextReply.spanOutcome (c.resource ["query", cursor, "spans"]).path.text,
        n.after [c.spanRequest cursor limit] n.replies.tail) := by
  rw [← c.path_spanRequest cursor limit]
  exact Request.ask_of_delivers hn (c.scheme_spanRequest cursor limit) _

/-! ### The loop over the pages -/

lemma spansFrom_of_error {cursor : String} {found : List Span} {n' : Network} {e : ClientError}
    (h : c.spanPage cursor limit n = (.error e, n')) :
    c.spansFrom limit cursor found n = (.error e, n') := by
  rw [spansFrom]
  split
  · rename_i he
    rw [h] at he
    cases he
    rfl
  · rename_i he
    rw [h] at he
    cases he

lemma spansFrom_of_page {cursor : String} {found : List Span} {n' : Network} {page : SpanPage}
    (h : c.spanPage cursor limit n = (.ok page, n')) :
    c.spansFrom limit cursor found n
      = match limit.filter (· ≤ (found ++ page.spans).length), page.onward with
        | some most, _ => (.ok ((found ++ page.spans).take most), n')
        | none, none => (.ok (found ++ page.spans), n')
        | none, some next => c.spansFrom limit next (found ++ page.spans) n' := by
  rw [spansFrom]
  split
  · rename_i he
    rw [h] at he
    cases he
  · rename_i he
    rw [h] at he
    cases he
    rfl

/-- The loop ends with a page to stop at. -/
lemma spansFrom_of_stopsAt {cursor : String} {earlier : List SpanPage} {page : SpanPage}
    {n' : Network} (h : c.spanPage cursor limit n = (.ok page, n'))
    (hstop : StopsAt limit earlier page) :
    c.spansFrom limit cursor (spansOf earlier) n
      = (.ok (cutTo limit (spansOf (earlier ++ [page]))), n') := by
  rw [StopsAt, spansOf_concat] at hstop
  rw [spansFrom_of_page h, spansOf_concat]
  generalize spansOf earlier ++ page.spans = found at hstop ⊢
  cases limit with
  | none =>
      have hnone : page.onward = none := by simpa using hstop
      rw [hnone]
      rfl
  | some most =>
      rcases Nat.lt_or_ge found.length most with hshort | hfull
      · have hnone : page.onward = none := by simpa [Nat.not_le.mpr hshort] using hstop
        have hopen : (some most).filter (· ≤ found.length) = none := by simp [hshort]
        rw [hopen, hnone, cutTo, List.take_of_length_le (Nat.le_of_lt hshort)]
      · have hreached : (some most).filter (· ≤ found.length) = some most := by simp [hfull]
        rw [hreached]
        rfl

/-- The loop goes on after any other page. -/
lemma spansFrom_of_not_stopsAt {cursor next : String} {earlier : List SpanPage} {page : SpanPage}
    {n' : Network} (h : c.spanPage cursor limit n = (.ok page, n'))
    (hon : ¬ StopsAt limit earlier page) (hnext : page.onward = some next) :
    c.spansFrom limit cursor (spansOf earlier) n
      = c.spansFrom limit next (spansOf (earlier ++ [page])) n' := by
  have hopen : limit.filter (· ≤ (spansOf earlier ++ page.spans).length) = none := by
    rw [StopsAt, spansOf_concat] at hon
    cases limit <;> simp_all
  rw [spansFrom_of_page h, hopen, hnext, spansOf_concat]

/-- A page that is brought is what the request for it gives. -/
lemma spanPage_of_brings (hn : n.Delivers c) {page : SpanPage} {more : List SpanPage}
    (h : n.Brings (page :: more)) (cursor : String) (limit : Option Nat) :
    c.spanPage cursor limit n
        = (.ok page, n.after [c.spanRequest cursor limit] n.replies.tail) ∧
      (n.after [c.spanRequest cursor limit] n.replies.tail).Brings more := by
  obtain ⟨reply, rest, hreplies, hpage, hmore⟩ := Network.brings_cons_iff.mp h
  rw [spanPage_eq hn, Network.nextReply, hreplies, List.headD_cons, List.tail_cons,
    Reply.spanOutcome_eq_ok_iff.mpr hpage]
  exact ⟨rfl, hmore _⟩

/-- Where pages go on, the loop goes on to the next of them. -/
lemma spansFrom_of_goesOn (hn : n.Delivers c) {page : SpanPage}
    {earlier more behind : List SpanPage} (hbrings : n.Brings (page :: behind))
    (hon : GoesOn limit (earlier ++ page :: more)) (cursor : String) :
    ∃ next, page.onward = some next ∧
      (n.after [c.spanRequest cursor limit] n.replies.tail).Brings behind ∧
      c.spansFrom limit cursor (spansOf earlier) n
        = c.spansFrom limit next (spansOf (earlier ++ [page]))
          (n.after [c.spanRequest cursor limit] n.replies.tail) := by
  obtain ⟨hpage, hbehind⟩ := spanPage_of_brings hn hbrings cursor limit
  obtain ⟨next, hnext⟩ := Option.ne_none_iff_exists'.mp (hon.onward_ne_none page (by simp))
  exact ⟨next, hnext, hbehind,
    spansFrom_of_not_stopsAt hpage (hon earlier page more rfl) hnext⟩

/-- The requests and the replies that are left once a first page has led on to others. -/
lemma after_cons {page : SpanPage} {next : String} (hnext : page.onward = some next)
    (cursor : String) (more : List SpanPage) :
    (n.after [c.spanRequest cursor limit] n.replies.tail).after (c.spanRequests limit next more)
        (n.replies.tail.drop (more.length + 1))
      = n.after (c.spanRequests limit cursor (page :: more))
        (n.replies.drop ((page :: more).length + 1)) := by
  rw [Network.after_after, List.drop_tail, spanRequests, spanRequests, asked, asked,
    List.filterMap_cons_some hnext]
  rfl

/-- **The loop over pages up to one to stop at** gives their spans, up to the limit. -/
lemma spansFrom_of_stopsAt_last {last : SpanPage} (more : List SpanPage) :
    ∀ {n : Network} (cursor : String) (earlier : List SpanPage), n.Delivers c →
      n.Brings (more ++ [last]) → GoesOn limit (earlier ++ more) →
      StopsAt limit (earlier ++ more) last →
      c.spansFrom limit cursor (spansOf earlier) n
        = (.ok (cutTo limit (spansOf (earlier ++ more ++ [last]))),
          n.after (c.spanRequests limit cursor more) (n.replies.drop (more.length + 1))) := by
  induction more with
  | nil =>
      intro n cursor earlier hn hbrings _ hstop
      rw [List.append_nil] at hstop ⊢
      rw [spansFrom_of_stopsAt (spanPage_of_brings hn hbrings cursor limit).1 hstop,
        ← List.drop_one]
      rfl
  | cons page more ih =>
      intro n cursor earlier hn hbrings hon hstop
      obtain ⟨next, hnext, hmore, hgoes⟩ := spansFrom_of_goesOn hn hbrings hon cursor
      rw [List.append_cons earlier page more] at hon hstop ⊢
      rw [hgoes, ih next _ (hn.after _ _) hmore hon hstop, ← after_cons hnext]
      rfl

/-- **The loop fails if a page does**, with the error of that page and nothing else. -/
lemma spansFrom_of_fails {e : ClientError} (more : List SpanPage) :
    ∀ {n : Network} (cursor : String) (earlier : List SpanPage), n.Delivers c →
      n.Brings more → GoesOn limit (earlier ++ more) →
      (n.replyAt more.length).spanOutcome (c.lastSpanPath cursor more) = .error e →
      c.spansFrom limit cursor (spansOf earlier) n
        = (.error e,
          n.after (c.spanRequests limit cursor more) (n.replies.drop (more.length + 1))) := by
  induction more with
  | nil =>
      intro n cursor earlier hn _ _ he
      rw [List.length_nil, Network.replyAt_zero] at he
      have hpage := spanPage_eq hn cursor limit
      rw [← lastSpanPath_nil, he] at hpage
      rw [spansFrom_of_error hpage, ← List.drop_one]
      rfl
  | cons page more ih =>
      intro n cursor earlier hn hbrings hon he
      obtain ⟨next, hnext, hmore, hgoes⟩ := spansFrom_of_goesOn hn hbrings hon cursor
      rw [List.append_cons] at hon
      rw [List.length_cons, ← Network.replyAt_after_tail n [c.spanRequest cursor limit],
        lastSpanPath_cons hnext] at he
      rw [hgoes, ih next _ (hn.after _ _) hmore hon he, ← after_cons hnext]
      rfl

lemma spansFrom_of_completes {before : List SpanPage} {last : SpanPage} (hn : n.Delivers c)
    (h : n.Completes limit before last) (cursor : String) :
    c.spansFrom limit cursor [] n
      = (.ok (cutTo limit (spansOf (before ++ [last]))),
        n.after (c.spanRequests limit cursor before) (n.replies.drop (before.length + 1))) :=
  spansFrom_of_stopsAt_last before cursor [] hn h.brings h.goesOn h.stopsAt

lemma spansFrom_of_breaksOff {before : List SpanPage} (hn : n.Delivers c)
    (h : n.BreaksOff limit before) (cursor : String) :
    ∃ e, (n.replyAt before.length).spanOutcome (c.lastSpanPath cursor before) = .error e ∧
      c.spansFrom limit cursor [] n
        = (.error e,
          n.after (c.spanRequests limit cursor before) (n.replies.drop (before.length + 1))) := by
  obtain ⟨e, he⟩ := Reply.exists_spanOutcome_eq_error h.fails (c.lastSpanPath cursor before)
  exact ⟨e, he, spansFrom_of_fails before cursor [] hn h.brings h.goesOn he⟩

/-- **A lower limit gives the beginning of the spans** and asks for no more pages. -/
lemma spansFrom_of_isBelow {lower : Option Nat} (hn : n.Delivers c) (h : IsBelow lower limit)
    {cursor : String} {found : List Span} {n' : Network}
    (hfetch : c.spansFrom limit cursor [] n = (.ok found, n')) :
    ∃ n'', c.spansFrom lower cursor [] n = (.ok (cutTo lower found), n'') ∧
      n.delivered.length < n''.delivered.length ∧
      n''.delivered.length ≤ n'.delivered.length := by
  rcases n.completes_or_breaksOff limit with ⟨pages, last, hpages⟩ | ⟨pages, hpages⟩
  · rw [spansFrom_of_completes hn hpages cursor] at hfetch
    obtain ⟨before, page, hbefore, hlength, hspans⟩ := hpages.of_isBelow h
    obtain ⟨rfl, rfl⟩ : cutTo limit (spansOf (pages ++ [last])) = found ∧ _ = n' := by
      simpa using hfetch
    rw [cutTo_cutTo h, ← hspans]
    refine ⟨_, spansFrom_of_completes hn hbefore cursor, ?_, ?_⟩ <;>
      simp only [Network.after, spanRequests, List.length_append, List.length_map,
        hbefore.goesOn.length_asked, hpages.goesOn.length_asked] <;> omega
  · obtain ⟨e, -, he⟩ := spansFrom_of_breaksOff hn hpages cursor
    rw [he] at hfetch
    cases hfetch

end Client

/-! ### A first call -/

namespace Retrieval

variable {r : Retrieval}

lemma spans_of_cached {found : List Span} (h : r.handle.cached = some found) :
    spans r = (.ok found, r) := by
  rw [spans, h]

lemma spans_of_ok (h : r.handle.cached = none) {found : List Span} {n' : Network}
    (hfetch : r.handle.client.spansFrom r.handle.limit r.handle.id [] r.network
      = (.ok found, n')) :
    spans r = (.ok found, ⟨{ r.handle with cached := some found }, n'⟩) := by
  rw [spans, h, hfetch]

lemma spans_of_error (h : r.handle.cached = none) {e : ClientError} {n' : Network}
    (hfetch : r.handle.client.spansFrom r.handle.limit r.handle.id [] r.network
      = (.error e, n')) :
    spans r = (.error e, ⟨r.handle, n'⟩) := by
  rw [spans, h, hfetch]

end Retrieval

/-! ### What a request says -/

/-- What stands in a query in front of fields that are added to it. -/
def Url.queryFront (u : Url) : String :=
  match u.query with
  | some q => if q = "" then "" else q ++ "&"
  | none => ""

lemma formEncode_limit (most : Nat) :
    formEncode [("limit", integerText most)] = "limit=" ++ integerText most := by
  have hdigits : (integerText most).toList.flatMap formChar = (integerText most).toList := by
    refine flatMap_formChar fun ch hch => ?_
    have hdigit : ch ∈ Nat.toDigits 10 most := by
      simpa [integerText, decimalDigits, Int.not_lt.mpr (Int.natCast_nonneg most)] using hch
    simp [Char.isAlphanum, Nat.isDigit_of_mem_toDigits (by decide) (by decide) hdigit]
  have hname : "limit".toList.flatMap formChar ++ ['='] = "limit=".toList := by decide
  rw [formEncode, List.map_singleton, List.intercalate_singleton, formField, hdigits,
    ← List.singleton_append, ← List.append_assoc, hname, String.ofList_append,
    String.ofList_toList, String.ofList_toList]

namespace Client

variable {c : Client}

/-- The limit is added to the query of the base. -/
lemma query_spanRequest (cursor : String) (limit : Option Nat) :
    (c.spanRequest cursor limit).url.query
      = match limit with
        | some most => some (c.base.queryFront ++ "limit=" ++ integerText most)
        | none => c.base.query := by
  have hbase := Url.query_appendSegments c.base ["query", cursor, "spans"]
  cases limit with
  | none => exact hbase
  | some most =>
      have hadded : (c.spanRequest cursor (some most)).url.query
          = some (match (c.base.appendSegments ["query", cursor, "spans"]).query with
            | some q => (if q = "" then "" else q ++ "&")
                ++ formEncode [("limit", integerText most)]
            | none => formEncode [("limit", integerText most)]) := rfl
      rw [hadded, hbase, formEncode_limit, Url.queryFront]
      cases c.base.query <;> simp [String.append_assoc]

/-- A plain cursor is a piece of the path. -/
lemma pathText_spanRequest (hbase : c.base.isRootless = false) {cursor : String}
    (hcursor : IsPlain cursor) (limit : Option Nat) :
    (c.spanRequest cursor limit).url.path.text
      = c.base.front ++ segmentsText ["query", Url.encodeSegment cursor, "spans"] := by
  have hplain : ∀ s ∈ ["query", cursor, "spans"], IsPlain s := by
    simp only [List.forall_mem_cons, List.not_mem_nil, false_implies, implies_true, and_true]
    exact ⟨by decide, hcursor, by decide⟩
  have hencoded : ["query", cursor, "spans"].map Url.encodeSegment
      = ["query", Url.encodeSegment cursor, "spans"] := by
    have hquery : Url.encodeSegment "query" = "query" := by decide
    have hspans : Url.encodeSegment "spans" = "spans" := by decide
    rw [List.map_cons, List.map_cons, List.map_singleton, hquery, hspans]
  rw [path_spanRequest, resource, Url.path_appendSegments hbase (by decide) hplain, UrlPath.text,
    segmentsText_append, hencoded, Url.front]

end Client

/-! ### Cursors of pages -/

lemma Document.optional?_string?_eq_none_iff {d : Option Document} :
    Document.optional? Document.string? d = some none ↔ d = none ∨ d = some .null := by
  rcases d with _ | _ | _ | _ | _ | _ | _ <;> simp [Document.optional?]

lemma Document.optional?_string?_eq_some_iff {d : Option Document} {t : String} :
    Document.optional? Document.string? d = some (some t)
      ↔ ∃ text, d = some (.string text) ∧ text.text? = some t := by
  rcases d with _ | _ | _ | _ | _ | _ | _ <;> simp [Document.optional?, Document.string?]

lemma Client.leadsOn_eq_some_iff {cursor : Option String} {next : String} :
    Client.leadsOn cursor = some next ↔ cursor = some next ∧ next ≠ "" := by
  rw [leadsOn, Option.filter_eq_some_iff, bne_iff_ne]

/-- A page leads on with a cursor that is a text, and not an empty one. -/
lemma SpanPage.onward_of_read? {d : Document} {page : SpanPage} (h : SpanPage.read? d = some page) :
    ∃ spans cursor, d.members? ["spans", "cursor"] = some [some spans, cursor] ∧
      spans.list? Span.read? = some page.spans ∧
      (page.onward = none ↔ cursor = none ∨ cursor = some .null ∨
        ∃ text, cursor = some (.string text) ∧ text.text? = some "") ∧
      ∀ next, page.onward = some next →
        ∃ text, cursor = some (.string text) ∧ text.text? = some next := by
  simp only [SpanPage.read?, Option.bind_eq_bind, Option.bind_eq_some_iff] at h
  obtain ⟨members, hmembers, h⟩ := h
  split at h
  · rename_i spans cursor
    simp only [Option.bind_eq_some_iff, Option.pure_def, Option.some.injEq] at h
    obtain ⟨found, hfound, next, hnext, rfl⟩ := h
    refine ⟨spans, cursor, hmembers, hfound, ?_, fun next' hnext' => ?_⟩
    · rw [← or_assoc, ← Document.optional?_string?_eq_none_iff,
        ← Document.optional?_string?_eq_some_iff, hnext, Option.eq_none_iff_forall_ne_some]
      simp only [onward, Ne, Client.leadsOn_eq_some_iff, Option.some.injEq]
      cases next <;> simp
    · obtain ⟨rfl, -⟩ := Client.leadsOn_eq_some_iff.mp hnext'
      exact Document.optional?_string?_eq_some_iff.mp hnext
  · cases h

/-! ### Spans of a query -/

/-- **The spans of a query follow its pages.** A first call asks for one page after the
other up to the first one to stop at, and gives their spans up to the limit; or a page
fails, and so does the call. A lower limit gives the beginning of the same spans. -/
theorem spans_follow_pages {c : Client} {n : Network} (hn : n.Delivers c) (id : String)
    (limit : Option Nat) :
    (∀ before last, n.Completes limit before last →
      let found := cutTo limit (spansOf (before ++ [last]))
      Retrieval.spans ⟨⟨c, id, limit, none⟩, n⟩ = (.ok found, ⟨⟨c, id, limit, some found⟩,
        n.after (c.spanRequests limit id before) (n.replies.drop (before.length + 1))⟩)) ∧
    (∀ before, n.BreaksOff limit before →
      ∃ e, (n.replyAt before.length).spanOutcome (c.lastSpanPath id before) = .error e ∧
        Retrieval.spans ⟨⟨c, id, limit, none⟩, n⟩ = (.error e, ⟨⟨c, id, limit, none⟩,
          n.after (c.spanRequests limit id before) (n.replies.drop (before.length + 1))⟩)) ∧
    ((∃ before last, n.Completes limit before last) ∨ ∃ before, n.BreaksOff limit before) ∧
    (∀ lower found r, (∀ most, limit = some most → lower ≤ most) →
      Retrieval.spans ⟨⟨c, id, limit, none⟩, n⟩ = (.ok found, r) →
      ∃ r', Retrieval.spans ⟨⟨c, id, some lower, none⟩, n⟩ = (.ok (found.take lower), r') ∧
        n.delivered.length < r'.network.delivered.length ∧
        r'.network.delivered.length ≤ r.network.delivered.length) ∧
    (∀ cursor, (c.spanRequest cursor limit).method = .get ∧
      (c.spanRequest cursor limit).url.path = (c.resource ["query", cursor, "spans"]).path ∧
      (c.spanRequest cursor limit).url.query = (match limit with
        | some most => some (c.base.queryFront ++ "limit=" ++ integerText most)
        | none => c.base.query) ∧
      (IsPlain cursor → (c.spanRequest cursor limit).url.path.text
        = c.base.front ++ segmentsText ["query", Url.encodeSegment cursor, "spans"])) ∧
    ∀ d page, SpanPage.read? d = some page →
      ∃ spans cursor, d.members? ["spans", "cursor"] = some [some spans, cursor] ∧
        spans.list? Span.read? = some page.spans ∧
        (page.onward = none ↔ cursor = none ∨ cursor = some .null ∨
          ∃ text, cursor = some (.string text) ∧ text.text? = some "") ∧
        ∀ next, page.onward = some next →
          ∃ text, cursor = some (.string text) ∧ text.text? = some next := by
  refine ⟨fun before last h => ?_, fun before h => ?_, n.completes_or_breaksOff limit, ?_,
    fun cursor => ⟨by cases limit <;> rfl, c.path_spanRequest cursor limit,
      Client.query_spanRequest cursor limit, fun hcursor =>
      Client.pathText_spanRequest hn.rooted hcursor limit⟩,
    fun d page h => SpanPage.onward_of_read? h⟩
  · exact Retrieval.spans_of_ok rfl (Client.spansFrom_of_completes hn h id)
  · obtain ⟨e, he, hfetch⟩ := Client.spansFrom_of_breaksOff hn h id
    exact ⟨e, he, Retrieval.spans_of_error rfl hfetch⟩
  · intro lower found r hlower hspans
    have hbelow : IsBelow (some lower) limit := fun most hmost => ⟨lower, rfl, hlower most hmost⟩
    rcases hfetch : c.spansFrom limit id [] n with ⟨e | all, n'⟩
    · rw [Retrieval.spans_of_error rfl hfetch] at hspans
      cases hspans
    · rw [Retrieval.spans_of_ok rfl hfetch] at hspans
      cases hspans
      obtain ⟨n'', hfetch', hone, hfewer⟩ := Client.spansFrom_of_isBelow hn hbelow hfetch
      exact ⟨_, Retrieval.spans_of_ok rfl hfetch', hone, hfewer⟩

/-- A page of two spans that leads on. -/
def leadingPage : SpanPage := ⟨[⟨"a", none, none⟩, ⟨"b", none, none⟩], some "next"⟩

/-- A page of one span with an empty cursor. -/
def closingPage : SpanPage := ⟨[⟨"c", none, none⟩], some ""⟩

/-- The replies that bring these pages. -/
def pageReplies : List Reply :=
  [.answer ⟨200, [], "\x7b\"cursor\":\"next\",\"spans\":[\x7b\"cursor\":\"a\"\x7d," ++
      "\x7b\"cursor\":\"b\"\x7d]\x7d"⟩,
    .answer ⟨200, [], "\x7b\"spans\":[\x7b\"cursor\":\"c\"\x7d],\"cursor\":\"\"\x7d"⟩]

lemma pageReplies_spanPage? :
    pageReplies.map Reply.spanPage? = [some leadingPage, some closingPage] := by
  have hleading : (pageReplies.headD .dropped).spanPage? = some leadingPage :=
    Reply.record?_eq_some_iff.mpr ⟨_, rfl, by decide, Answer.decode_eq_ok rfl rfl⟩
  have hclosing : (pageReplies.tail.headD .dropped).spanPage? = some closingPage :=
    Reply.record?_eq_some_iff.mpr ⟨_, rfl, by decide, Answer.decode_eq_ok rfl rfl⟩
  exact congrArg₂ (fun first second => [first, second]) hleading hclosing

lemma goesOn_leadingPage : GoesOn none [leadingPage] := by
  refine goesOn_concat goesOn_nil ?_
  rintro (hnone | ⟨most, hmost, -⟩)
  · exact absurd hnone (by decide)
  · cases hmost

/-- Replies that bring these pages are collected whole, without a limit. -/
lemma completes_of_pageReplies {n : Network} {rest : List Reply}
    (h : n.replies = pageReplies ++ rest) : n.Completes none [leadingPage] closingPage where
  brings := by
    have hpages : n.replies.map Reply.spanPage?
        = [some leadingPage, some closingPage] ++ rest.map Reply.spanPage? := by
      rw [h, List.map_append, pageReplies_spanPage?]
    rw [Network.Brings, hpages]
    exact List.prefix_append _ _
  goesOn := goesOn_leadingPage
  stopsAt := .inl (by decide)

theorem closingPage_followed :
    (Network.ofReplies pageReplies).Delivers mountedClient ∧
      ∃ r, Retrieval.spans ⟨⟨mountedClient, "q", none, none⟩, .ofReplies pageReplies⟩
          = (.ok [⟨"a", none, none⟩, ⟨"b", none, none⟩, ⟨"c", none, none⟩], r) ∧
        r.network.delivered.length = 2 ∧
        ∃ r', Retrieval.spans ⟨⟨mountedClient, "q", some 1, none⟩, .ofReplies pageReplies⟩
            = (.ok [⟨"a", none, none⟩], r') ∧ 0 < r'.network.delivered.length ∧
          r'.network.delivered.length ≤ 2 := by
  have hn : (Network.ofReplies pageReplies).Delivers mountedClient := ⟨rfl, .inl rfl, rfl⟩
  obtain ⟨hcompletes, -, -, hlower, -⟩ := spans_follow_pages hn "q" none
  have hreplies : (Network.ofReplies pageReplies).replies = pageReplies ++ [] :=
    (List.append_nil _).symm
  have hspans := hcompletes _ _ (completes_of_pageReplies hreplies)
  obtain ⟨r', hfewer, hone, hle⟩ := hlower 1 _ _ (fun _ h => by cases h) hspans
  exact ⟨hn, _, hspans, rfl, r', hfewer, hone, hle⟩

end EventQuery
