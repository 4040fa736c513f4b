import Mathlib.Data.List.TakeWhile
import Clearance.CommandLine.Run
import Clearance.Proofs.Store.Lookups
import Clearance.Proofs.Text.Segments
/-!
# Posts — what the program sends to the flight data server

The configured address says which server is asked, and the path of the question stands below the path of the address.
`lookups_posted` says that typed messages, along any run, ask exactly what they need, and that the program sends one
POST to that server for each question.
-/
namespace Clearance
namespace CommandLine

open Text

namespace Url

/-- What the host, the port, and the user in front of them are written with. -/
def isAuthority (c : Char) : Bool := c ≠ '#' && c ≠ '?' && !isSlash c

/-- The path of a question, which stands below the configured address. -/
def frdPath : List Char := "/edst/frd".toList

/-- The target that is read from what follows the scheme. -/
def targetBehind (t : List Char) : String :=
  let s := t.takeWhile (· ≠ '#')
  let front := s.takeWhile (· ≠ '?')
  String.ofList (writePath (front.drop (t.takeWhile isAuthority).length) ++
    match s.drop front.length with
    | [] => []
    | q :: r => q :: encodeQuery r)

/-- A server's address and where a question to that server goes. -/
structure Below (address : String) (server url : Url) : Prop where
  host : url.host = server.host
  port : url.port = server.port
  path : (∀ c ∈ address.toList, c ≠ '?' ∧ c ≠ '#') → frdPath <:+ url.target.toList

/-! ## Addresses -/

theorem clean_of_forall {s : List Char} (h : ∀ c ∈ s, 32 < c.toNat) : clean s = s := by
  have hkeep : ∀ c ∈ s, decide (c.toNat ≤ 32) = false := fun c hc => decide_eq_false (Nat.not_le.2 (h c hc))
  have hfront : s.dropWhile (fun c => decide (c.toNat ≤ 32)) = s := by
    cases s with
    | nil => rfl
    | cons c s => rw [List.dropWhile_cons_of_neg (by simp [hkeep c List.mem_cons_self])]
  rw [clean, hfront, dropEndWhile_of_forall hkeep, List.filter_eq_self]
  intro c hc
  have hgt := h c hc
  simp only [isTabOrNewline, Bool.not_eq_true', Bool.or_eq_false_iff, decide_eq_false_iff_not]
  refine ⟨⟨?_, ?_⟩, ?_⟩ <;> rintro rfl <;> exact absurd hgt (by decide)

theorem takeWhile_isAuthority (t : List Char) :
    ((t.takeWhile (· ≠ '#')).takeWhile (· ≠ '?')).takeWhile (fun c => !isSlash c) = t.takeWhile isAuthority := by
  rw [List.takeWhile_takeWhile, List.takeWhile_takeWhile]
  refine congrArg (List.takeWhile · t) (funext fun c => ?_)
  simp only [isAuthority, Bool.decide_and, Bool.decide_eq_true]
  ac_rfl

theorem parse?_eq {s : String} (h : ∀ c ∈ s.toList, 32 < c.toNat) : parse? s =
    (afterScheme? s.toList).bind fun t => (authority? (withoutUser (t.takeWhile isAuthority))).map fun server =>
      ⟨server.1, server.2, targetBehind t⟩ := by
  rw [parse?, clean_of_forall h]
  cases afterScheme? s.toList with
  | none => rfl
  | some t =>
    simp only [bind, pure, Option.bind_some, takeWhile_isAuthority]
    cases authority? (withoutUser (t.takeWhile isAuthority)) with
    | none => rfl
    | some server => rfl

theorem afterScheme?_eq_some_iff {a t : List Char} : afterScheme? a = some t ↔
    ∃ scheme slashes, a = scheme ++ (slashes ++ t) ∧ scheme.map Char.toLower = ['h', 't', 't', 'p', ':'] ∧
      (∀ c ∈ slashes, isSlash c = true) ∧ ∀ c ∈ t.head?, isSlash c = false := by
  constructor
  · intro h
    obtain ⟨hscheme, ht⟩ := Option.ite_none_right_eq_some.1 h
    obtain rfl := Option.some.inj ht
    refine ⟨a.take 5, (a.drop 5).takeWhile isSlash, ?_, hscheme, ?_, ?_⟩
    · rw [List.takeWhile_append_dropWhile, List.take_append_drop]
    · exact fun c hc => List.mem_takeWhile_imp hc
    · exact fun c => of_mem_head?_dropWhile
  · rintro ⟨scheme, slashes, rfl, hscheme, hslashes, hhead⟩
    have hlength : scheme.length = 5 := by rw [← List.length_map Char.toLower, hscheme]; rfl
    have hstop : t.dropWhile isSlash = t := by
      cases t with
      | nil => rfl
      | cons c t => rw [List.dropWhile_cons_of_neg (by rw [hhead c rfl]; exact Bool.false_ne_true)]
    rw [afterScheme?, List.take_left' hlength, List.drop_left' hlength, hscheme, if_pos rfl,
      List.dropWhile_append_of_pos hslashes, hstop]

theorem isAuthority_slash : isAuthority '/' = false := by decide

theorem takeWhile_isAuthority_below (t : List Char) :
    (dropEndWhile (· = '/') (t.dropWhile isAuthority) ++ frdPath).takeWhile isAuthority = [] := by
  have hpath : frdPath = '/' :: "edst/frd".toList := rfl
  obtain ⟨slashes, hrest⟩ := dropEndWhile_prefix_self (· = '/') (t.dropWhile isAuthority)
  -- either something is left of the address's own path, or only the path of the question stands there; both begin with a
  -- character that is not in a host
  cases hbase : dropEndWhile (· = '/') (t.dropWhile isAuthority) with
  | nil => rw [List.nil_append, hpath, List.takeWhile_cons_of_neg (by simp [isAuthority_slash])]
  | cons c base =>
    have hhead := List.head?_dropWhile_not isAuthority t
    rw [← hrest, hbase, List.cons_append, List.head?_cons] at hhead
    rw [List.cons_append, List.takeWhile_cons_of_neg (by simp [hhead])]

/-- The part behind the scheme, with the path of a question in place of the slashes at its end. -/
def behindBelow (t : List Char) : List Char :=
  t.takeWhile isAuthority ++ (dropEndWhile (· = '/') (t.dropWhile isAuthority) ++ frdPath)

theorem takeWhile_behindBelow (t : List Char) : (behindBelow t).takeWhile isAuthority = t.takeWhile isAuthority := by
  rw [behindBelow, List.takeWhile_append_of_pos fun c hc => List.mem_takeWhile_imp hc, takeWhile_isAuthority_below,
    List.append_nil]

theorem dropEndWhile_slash (t : List Char) :
    dropEndWhile (· = '/') t = t.takeWhile isAuthority ++ dropEndWhile (· = '/') (t.dropWhile isAuthority) := by
  have hkeep : ∀ c ∈ t.takeWhile isAuthority, decide (c = '/') = false := by
    intro c hc
    refine decide_eq_false ?_
    rintro rfl
    exact absurd (List.mem_takeWhile_imp hc) (by decide)
  conv => lhs; rw [← List.takeWhile_append_dropWhile (p := isAuthority) (l := t)]
  by_cases hrest : dropEndWhile (· = '/') (t.dropWhile isAuthority) = []
  · rw [dropEndWhile_append_of_eq_nil hrest, dropEndWhile_of_forall hkeep, hrest, List.append_nil]
  · rw [dropEndWhile_append hrest]

theorem afterScheme?_below {a t : List Char} (h : afterScheme? a = some t) (ht : t.takeWhile isAuthority ≠ []) :
    afterScheme? (dropEndWhile (· = '/') a ++ frdPath) = some (behindBelow t) := by
  obtain ⟨scheme, slashes, rfl, hscheme, hslashes, -⟩ := afterScheme?_eq_some_iff.1 h
  have hbase := dropEndWhile_slash t
  have hne : dropEndWhile (· = '/') t ≠ [] := by
    rw [hbase]
    exact fun hnil => ht (List.append_eq_nil_iff.1 hnil).1
  rw [afterScheme?_eq_some_iff]
  refine ⟨scheme, slashes, ?_, hscheme, hslashes, ?_⟩
  · rw [← List.append_assoc, dropEndWhile_append hne, hbase, behindBelow]
    simp only [List.append_assoc]
  · obtain ⟨c, rest, hauthority⟩ := List.exists_cons_of_ne_nil ht
    have hc : isAuthority c = true := List.mem_takeWhile_imp (hauthority ▸ List.mem_cons_self)
    simp only [isAuthority, Bool.and_eq_true, Bool.not_eq_true'] at hc
    rw [behindBelow, hauthority]
    rintro _ ⟨⟩
    exact hc.2

theorem suffix_resolveDots : ∀ (ss done : List (List Char)),
    ["edst".toList, "frd".toList] <:+ resolveDots done (ss ++ ["edst".toList, "frd".toList])
  | [], done => by
    -- neither of the two is a dot or two dots, so the segments in front may be taken back but not these
    have hpath : resolveDots done ["edst".toList, "frd".toList] = done.reverse ++ ["edst".toList, "frd".toList] := by
      simp [resolveDots, plainDots]
    rw [List.nil_append, hpath]
    exact List.suffix_append _ _
  | s :: ss, done => by
    rw [List.cons_append, resolveDots]
    split
    · exact suffix_resolveDots ss _
    · split
      · exact suffix_resolveDots ss _
      · exact suffix_resolveDots ss _

theorem suffix_writePath (path : List Char) : frdPath <:+ writePath (path ++ frdPath) := by
  have hwritten : ∀ r, frdPath <:+ (resolveDots [] (segments isSlash r ++ ["edst".toList, "frd".toList])).flatMap
      fun t => '/' :: encodePath t := fun r => by
    obtain ⟨front, hfront⟩ := suffix_resolveDots (segments isSlash r) []
    rw [← hfront, List.flatMap_append]
    exact ⟨_, rfl⟩
  have hpath : segments isSlash "edst/frd".toList = ["edst".toList, "frd".toList] := by decide
  cases path with
  | nil =>
    have hplain : writePath ([] ++ frdPath) = frdPath := by decide
    exact ⟨[], hplain.symm⟩
  | cons c path =>
    have hcut : path ++ frdPath = path ++ '/' :: "edst/frd".toList := rfl
    have hslash : isSlash '/' = true := by decide
    rw [List.cons_append, writePath, hcut, segments_append_cut hslash, hpath]
    exact hwritten path

theorem suffix_targetBehind {t : List Char} (h : ∀ c ∈ t, c ≠ '?' ∧ c ≠ '#') :
    frdPath <:+ (targetBehind (behindBelow t)).toList := by
  have hbelow : ∀ c ∈ behindBelow t, c ≠ '?' ∧ c ≠ '#' := by
    intro c hc
    rw [behindBelow, List.mem_append, List.mem_append] at hc
    rcases hc with hc | hc | hc
    · exact h c (List.takeWhile_subset _ hc)
    · exact h c (List.dropWhile_subset _ ((dropEndWhile_prefix_self _ _).subset hc))
    · have hall : (frdPath.all fun c => decide (c ≠ '?' ∧ c ≠ '#')) = true := by decide
      exact of_decide_eq_true (List.all_eq_true.1 hall c hc)
  have hfragment : (behindBelow t).takeWhile (· ≠ '#') = behindBelow t :=
    List.takeWhile_eq_self_iff.2 fun c hc => decide_eq_true (hbelow c hc).2
  have hquery : (behindBelow t).takeWhile (· ≠ '?') = behindBelow t :=
    List.takeWhile_eq_self_iff.2 fun c hc => decide_eq_true (hbelow c hc).1
  have hpath : (behindBelow t).drop (t.takeWhile isAuthority).length =
      dropEndWhile (· = '/') (t.dropWhile isAuthority) ++ frdPath := List.drop_left
  rw [targetBehind, hfragment, hquery, takeWhile_behindBelow, hpath, List.drop_length, String.toList_ofList,
    List.append_nil]
  exact suffix_writePath _

theorem lt_toNat_of_all {s : List Char} (h : (s.all fun c => decide (32 < c.toNat)) = true) : ∀ c ∈ s, 32 < c.toNat :=
  fun c hc => of_decide_eq_true (List.all_eq_true.1 h c hc)

/-- **The path of a question is appended to a valid address.** -/
theorem exists_below {address : String} {server : Url} (hblank : ∀ c ∈ address.toList, 32 < c.toNat)
    (h : parse? address = some server) :
    ∃ url, parse? (String.ofList (dropEndWhile (· = '/') address.toList) ++ "/edst/frd") = some url ∧
      Below address server url := by
  rw [parse?_eq hblank] at h
  obtain ⟨t, ht, hserver⟩ := Option.bind_eq_some_iff.1 h
  obtain ⟨⟨host, port⟩, hauthority, rfl⟩ := Option.map_eq_some_iff.1 hserver
  have hne : t.takeWhile isAuthority ≠ [] := fun hnil => by
    rw [hnil] at hauthority
    cases hauthority
  have hbelow : (String.ofList (dropEndWhile (· = '/') address.toList) ++ "/edst/frd").toList =
      dropEndWhile (· = '/') address.toList ++ frdPath := by
    rw [String.toList_append, String.toList_ofList]
    rfl
  have hblank' : ∀ c ∈ (String.ofList (dropEndWhile (· = '/') address.toList) ++ "/edst/frd").toList,
      32 < c.toNat := by
    intro c hc
    rw [hbelow] at hc
    rcases List.mem_append.1 hc with hc | hc
    · exact hblank c ((dropEndWhile_prefix_self _ _).subset hc)
    · exact lt_toNat_of_all (s := frdPath) (by decide) c hc
  refine ⟨⟨host, port, targetBehind (behindBelow t)⟩, ?_, ⟨rfl, rfl, fun hplain => ?_⟩⟩
  · rw [parse?_eq hblank', hbelow, afterScheme?_below ht hne, Option.bind_some, takeWhile_behindBelow, hauthority]
    rfl
  · obtain ⟨scheme, slashes, haddress, -⟩ := afterScheme?_eq_some_iff.1 ht
    refine suffix_targetBehind fun c hc => hplain c ?_
    rw [haddress]
    exact List.mem_append_right _ (List.mem_append_right _ hc)

end Url

/-! ## What is typed -/

namespace Setup

def message (s : Setup) (env : Environment) (text : String) : Message :=
  ⟨s.interpreter env.transport, s.config.context env.now, text⟩

/-- The messages that a subcommand has interpreted.  An empty line is none. -/
def typed (s : Setup) (env : Environment) : Subcommand → List Message
  | .interpret text => [s.message env (String.intercalate " " text)]
  | .repl => ((inputLines env.input).filter (!·.isEmpty)).map (s.message env)
  | .direct .. | .pending _ | .reroute .. | .previousRoute _ => []

end Setup

/-- What the program sends for a subcommand, when the configuration has the address of a server. -/
structure Posted (env : Environment) (s : Setup) (sub : Subcommand) (address : String) (server : Url) : Prop where
  lookups : Lookups (s.session env).store (s.typed env sub)
  /-- One POST is sent for each question, and its response is the answer. -/
  posts : ∃ url, Url.Below address server url ∧
    (runSubcommand env s sub).requests = (Message.calls (s.session env).store (s.typed env sub)).map
      (fun q => ⟨url, (HttpRequest.frdBody q).toCompact⟩) ∧
    ∀ q, frdResolver env.transport address q =
      (env.transport ⟨url, (HttpRequest.frdBody q).toCompact⟩).bind HttpResponse.frd?

/-! ## Sessions -/

namespace Setup

variable {s : Setup} {env : Environment} {address : String}

theorem isSome_resolver_of_mem_typed (haddress : s.config.frdUrl = some address) (sub : Subcommand) :
    ∀ m ∈ s.typed env sub, m.interpreter.resolver.isSome = true := by
  have hmessage : ∀ text, (s.message env text).interpreter.resolver.isSome = true := fun text => by
    rw [message, interpreter, haddress]
    rfl
  intro m hm
  cases sub with
  | interpret text =>
    obtain rfl := List.mem_singleton.1 hm
    exact hmessage _
  | repl =>
    obtain ⟨line, -, rfl⟩ := List.mem_map.1 hm
    exact hmessage line
  | _ => cases hm

/-- **A line that is submitted is a message**, and an empty one is nothing. -/
theorem step_submit (store : Store) (line : String) :
    (Session.step (s.setting env) ⟨store, ⟨line⟩, env.now⟩ .submit).2 =
      ⟨if line.isEmpty then store else Message.perform store (s.message env line), .empty, env.now⟩ := by
  cases hline : line.isEmpty with
  | true =>
    simp only [Session.step, Session.react, ComposeArea.submit, hline, if_true]
    rfl
  | false =>
    simp only [Session.step, Session.react, ComposeArea.submit, hline, Bool.false_eq_true, if_false]
    rfl

theorem request?_submit (store : Store) (line : String) :
    Session.request? (s.setting env) ⟨store, ⟨line⟩, env.now⟩ .submit =
      if line.isEmpty then none else (s.message env line).call? store := by
  cases hline : line.isEmpty with
  | true =>
    simp only [Session.request?, Session.text?, hline, if_true]
    rfl
  | false =>
    simp only [Session.request?, Session.text?, hline, Bool.false_eq_true, if_false]
    rfl

/-- **Lines that are typed make the requests of messages.** -/
theorem requests_lines : ∀ (lines : List String) (store : Store) (area : ComposeArea),
    Session.requests (s.setting env) ⟨store, area, env.now⟩ (lines.flatMap lineSteps) =
      Message.calls store ((lines.filter (!·.isEmpty)).map (s.message env))
  | [], _, _ => rfl
  | line :: lines, store, area => by
    have hrequests : Session.requests (s.setting env) ⟨store, area, env.now⟩ ((line :: lines).flatMap lineSteps) =
        (Session.request? (s.setting env) ⟨store, ⟨line⟩, env.now⟩ .submit).toList ++
          (Session.step (s.setting env) ⟨store, ⟨line⟩, env.now⟩ .submit).2.requests (s.setting env)
            (lines.flatMap lineSteps) := rfl
    rw [hrequests, step_submit, request?_submit, requests_lines lines]
    cases hline : line.isEmpty with
    | true => simp [hline]
    | false => simp [hline, Message.calls]

theorem ofFrdRequest?_eq {url : Url}
    (hurl : Url.parse? (String.ofList (dropEndWhile (· = '/') address.toList) ++ "/edst/frd") = some url)
    (q : FrdRequest) :
    HttpRequest.ofFrdRequest? address q = some ⟨url, (HttpRequest.frdBody q).toCompact⟩ := by
  rw [HttpRequest.ofFrdRequest?]
  simp only [hurl, Option.map_some]

theorem httpRequests_eq (haddress : s.config.frdUrl = some address) {url : Url}
    (hurl : Url.parse? (String.ofList (dropEndWhile (· = '/') address.toList) ++ "/edst/frd") = some url)
    (qs : List FrdRequest) :
    s.httpRequests qs = qs.map fun q => ⟨url, (HttpRequest.frdBody q).toCompact⟩ := by
  rw [httpRequests, haddress, Option.elim_some, funext (ofFrdRequest?_eq hurl)]
  exact congrFun List.filterMap_eq_map qs

theorem httpRequests_nil (s : Setup) : s.httpRequests [] = [] := by
  rw [httpRequests]
  cases s.config.frdUrl <;> rfl

end Setup

theorem requests_withFlight {s : Setup} {fid : String} {run : Flight → Exit} (h : ∀ f, (run f).requests = []) :
    (withFlight s fid run).requests = [] := by
  rw [withFlight]
  cases Flight.resolve s.flights (capitals fid) with
  | none => rfl
  | some f => exact h f

/-- **The requests of a subcommand are those of what is typed.** -/
theorem requests_runSubcommand (env : Environment) (s : Setup) (sub : Subcommand) :
    (runSubcommand env s sub).requests = s.httpRequests (Message.calls (s.session env).store (s.typed env sub)) := by
  cases sub with
  | interpret text =>
    rw [Setup.typed, Message.calls, Message.calls, List.append_nil]
    rfl
  | repl =>
    rw [Setup.typed, ← Setup.requests_lines _ _ .empty]
    rfl
  | direct fid fix amend => exact (requests_withFlight fun _ => rfl).trans s.httpRequests_nil.symm
  | pending fid => exact (requests_withFlight fun _ => rfl).trans s.httpRequests_nil.symm
  | reroute fid index departure amend =>
    refine (requests_withFlight fun f => ?_).trans s.httpRequests_nil.symm
    cases ((if departure then PendingRule.departure else .arrival).routes f)[index]? <;> rfl
  | previousRoute fid =>
    refine (requests_withFlight fun f => ?_).trans s.httpRequests_nil.symm
    cases Gesture.restorePrevious f .empty <;> rfl

/-- **The server is asked exactly when it is needed**, in every run of messages that have somebody to ask, and when the
configuration has a valid address each question of the messages that are typed is one POST to that server. -/
theorem lookups_posted :
    (∀ (s : Store) (messages : List Message), (∀ m ∈ messages, m.interpreter.resolver.isSome = true) →
      Lookups s messages) ∧
    ∀ (env : Environment) (s : Setup) (sub : Subcommand) (address : String) (server : Url),
      s.config.frdUrl = some address → (∀ c ∈ address.toList, 32 < c.toNat) → Url.parse? address = some server →
        Posted env s sub address server := by
  refine ⟨Message.lookups_performAll, fun env s sub address server haddress hblank hserver => ?_⟩
  obtain ⟨url, hurl, hbelow⟩ := Url.exists_below hblank hserver
  refine ⟨Message.lookups_performAll _ _ (Setup.isSome_resolver_of_mem_typed haddress sub), url, hbelow, ?_, ?_⟩
  · rw [requests_runSubcommand, Setup.httpRequests_eq haddress hurl]
  · intro q
    rw [frdResolver, Setup.ofFrdRequest?_eq hurl]
    rfl

theorem lookups_posted_of_one_flight :
    Lookups (.ofFlights
        [{ aircraftId := "N1", filedFixes := [⟨"SAC", none⟩], aclDisplay := true, position := some ⟨38.5, -121⟩ }])
      [⟨⟨some fun _ => some "SAC090023"⟩, ⟨false, "ZOA", .epoch, .ofSeconds 120⟩, "QU SAC N1"⟩] ∧
    Posted ⟨fun _ => .missing, "edst.json", {}, .epoch, "QU SAC N1", fun _ => some ⟨200, "SAC090023"⟩⟩
      ⟨⟨"ZOA", false, some "http://localhost:3000/", 120⟩, [{ aircraftId := "N1" }]⟩ .repl "http://localhost:3000/"
      ⟨"localhost", 3000, "/"⟩ :=
  ⟨lookups_posted.1 _ _ (by simp), lookups_posted.2 _ _ _ _ _ rfl (Url.lt_toNat_of_all (by decide)) (by decide +kernel)⟩

end CommandLine
end Clearance
