import Failover.Proofs.Client.Run
/-!
# Rehearsals by script

A scripted transport answers each authority from a queue of its own, whatever it is sent in between for
others.

* `Script.left` : the answers that are left for an authority.  `Script.left_enqueue`,
  `Script.left_dequeue`: what queueing and taking an answer do to them;
* `Script.ofList` : the script of some answers; `Script.answersFor`: those of them for one authority;
* `Script.left_replay` : what is left when requests were sent.  All but the last answer are used up;
* `Script.replay_filter` : requests to other authorities do not show in the answers;
* `Script.answers_independent` : the answer to each request of any sequence.
-/

set_option autoImplicit false

namespace Failover

namespace Script

/-! ## One answer -/

/-- The answers that are left for an authority. -/
def left (authority : String) (queues : List (String × List Scripted)) : List Scripted :=
  (queues.lookup authority).getD []

/-- A queue without its first answer, unless that is the last one. -/
def used : List Scripted → List Scripted
  | _ :: s :: q => s :: q
  | q => q

variable {authority : String}

theorem left_cons_self (q : List Scripted) (rest : List (String × List Scripted)) :
    left authority ((authority, q) :: rest) = q := by
  simp [left]

theorem left_cons_of_ne {a : String} (h : authority ≠ a) (q : List Scripted)
    (rest : List (String × List Scripted)) :
    left authority ((a, q) :: rest) = left authority rest := by
  simp [left, List.lookup_cons, beq_eq_false_iff_ne.mpr h]

/-- An answer is queued behind those for its authority, and behind no others. -/
theorem left_enqueue (a : String) (s : Scripted) : ∀ queues : List (String × List Scripted),
    left authority (enqueue a s queues) =
      if authority = a then left authority queues ++ [s] else left authority queues
  | [] => by
    by_cases h : authority = a
    · subst h
      rw [enqueue, left_cons_self, if_pos rfl]
      rfl
    · rw [enqueue, left_cons_of_ne h, if_neg h]
  | (b, q) :: rest => by
    have ih := left_enqueue a s rest
    by_cases hb : b = a
    · subst hb
      by_cases h : authority = b
      · subst h
        simp only [enqueue, if_true, left_cons_self]
      · simp only [enqueue, if_true, left_cons_of_ne h, if_neg h]
    · by_cases h : authority = b
      · subst h
        simp only [enqueue, if_neg hb, left_cons_self]
      · simp only [enqueue, if_neg hb, left_cons_of_ne h, ih]

theorem dequeue_cons_self (q : List Scripted) (rest : List (String × List Scripted)) :
    dequeue authority ((authority, q) :: rest) = (q.head?, (authority, used q) :: rest) := by
  rcases q with _ | ⟨s, _ | ⟨t, q⟩⟩ <;> simp [dequeue, used]

/-- The answer that is taken is the first one left. -/
theorem dequeue_fst : ∀ queues : List (String × List Scripted),
    (dequeue authority queues).1 = (left authority queues).head?
  | [] => rfl
  | (a, q) :: rest => by
    by_cases h : authority = a
    · subst h
      rw [dequeue_cons_self, left_cons_self]
    · simp only [dequeue, Ne.symm h, if_false, left_cons_of_ne h]
      exact dequeue_fst rest

/-- It is taken from the queue of its authority, and from no other. -/
theorem left_dequeue (a : String) : ∀ queues : List (String × List Scripted),
    left authority (dequeue a queues).2 =
      if authority = a then used (left authority queues) else left authority queues
  | [] => by
    split <;> rfl
  | (b, q) :: rest => by
    have ih := left_dequeue a rest
    by_cases hb : b = a
    · subst hb
      rw [dequeue_cons_self]
      by_cases h : authority = b
      · subst h
        simp only [left_cons_self, if_true]
      · simp only [left_cons_of_ne h, if_neg h]
    · by_cases h : authority = b
      · subst h
        simp only [dequeue, if_neg hb, left_cons_self]
      · simp only [dequeue, if_neg hb, left_cons_of_ne h, ih]

/-! ## Scripts -/

/-- The script of some answers, each queued for the authority of an endpoint. -/
def ofList (scripted : List (Endpoint × Scripted)) : Script :=
  scripted.foldl (fun s e => s.on (authorityOf e.1) e.2) empty

/-- Those of the answers that are scripted for an authority. -/
def answersFor (authority : String) (scripted : List (Endpoint × Scripted)) : List Scripted :=
  (scripted.filter fun e => authorityOf e.1 = authority).map (·.2)

theorem left_foldl : ∀ (scripted : List (Endpoint × Scripted)) (s : Script),
    left authority (scripted.foldl (fun s e => s.on (authorityOf e.1) e.2) s).queues =
      left authority s.queues ++ answersFor authority scripted
  | [], s => (List.append_nil _).symm
  | e :: rest, s => by
    rw [List.foldl_cons, left_foldl rest, on, left_enqueue]
    by_cases h : authority = authorityOf e.1
    · simp [answersFor, h, List.append_assoc]
    · simp [answersFor, h, Ne.symm h]

/-- Each authority has the answers that are scripted for it. -/
theorem left_ofList (scripted : List (Endpoint × Scripted)) :
    left authority (ofList scripted).queues = answersFor authority scripted :=
  left_foldl scripted empty

/-- No request was sent yet. -/
theorem sent_ofList (scripted : List (Endpoint × Scripted)) : (ofList scripted).sent = [] := by
  have hfoldl : ∀ (rest : List (Endpoint × Scripted)) (s : Script),
      (rest.foldl (fun s e => s.on (authorityOf e.1) e.2) s).sent = s.sent := by
    intro rest
    induction rest with
    | nil => exact fun _ => rfl
    | cons e rest ih => exact fun s => ih (s.on (authorityOf e.1) e.2)
  exact hfoldl scripted empty

/-! ## Requests one after another -/

/-- A request is answered with the first answer that is left for its authority. -/
theorem send_eq (r : Request) (s : Script) :
    let answer := (left r.authorityText s.queues).head?.getD (refusal r.authorityText)
    (transport.send r s).outcome = answer.outcome ∧ (transport.send r s).elapsed = answer.delay := by
  have h : (dequeue r.authorityText s.queues).1 = (left r.authorityText s.queues).head? :=
    dequeue_fst s.queues
  exact ⟨congrArg (fun o => (o.getD (refusal r.authorityText)).outcome) h,
    congrArg (fun o => (o.getD (refusal r.authorityText)).delay) h⟩

/-- It uses up that answer, unless it is the last. -/
theorem left_send (r : Request) (s : Script) : left authority (transport.send r s).state.queues =
    if authority = r.authorityText then used (left authority s.queues)
    else left authority s.queues :=
  left_dequeue r.authorityText s.queues

/-- Once one answer is used, the others are used in the same way. -/
theorem drop_used (k : Nat) (q : List Scripted) :
    (used q).drop (min k ((used q).length - 1)) = q.drop (min (k + 1) (q.length - 1)) := by
  rcases q with _ | ⟨s, _ | ⟨t, q⟩⟩
  · simp [used]
  · simp [used]
  · simp only [used, List.length_cons, Nat.add_sub_cancel]
    rw [Nat.add_min_add_right, List.drop_succ_cons]

/-- **As many answers are used up as requests were sent to their authority**, but never the last. -/
theorem left_replay : ∀ (requests : List Request) (s : Script),
    left authority (transport.replay s requests).2.queues = (left authority s.queues).drop
      (min (requests.countP (·.authorityText = authority)) ((left authority s.queues).length - 1))
  | [], s => by simp [Transport.replay]
  | r :: rest, s => by
    rw [Transport.replay, left_replay rest, left_send]
    by_cases h : authority = r.authorityText
    · rw [if_pos h, drop_used, List.countP_cons_of_pos (by simp [h])]
    · rw [if_neg h, List.countP_cons_of_neg (by simp [Ne.symm h])]

/-- All requests are kept, in order. -/
theorem sent_replay : ∀ (requests : List Request) (s : Script),
    (transport.replay s requests).2.sent = s.sent ++ requests
  | [], s => (List.append_nil _).symm
  | r :: rest, s => by
    rw [Transport.replay, sent_replay rest]
    exact List.append_assoc s.sent [r] rest

/-- **Requests to other authorities do not show in the answers**: leaving them out changes none of
    those that are given to this authority. -/
theorem replay_filter : ∀ (requests : List Request) {s s' : Script},
    left authority s.queues = left authority s'.queues →
      ((requests.zip (transport.replay s requests).1).filter
        (·.1.authorityText = authority)).map (·.2) =
      (transport.replay s' (requests.filter (·.authorityText = authority))).1
  | [], _, _, _ => rfl
  | r :: rest, s, s', hs => by
    by_cases h : authority = r.authorityText
    · have hleft : left authority (transport.send r s).state.queues =
          left authority (transport.send r s').state.queues := by
        rw [left_send, left_send, hs]
      have houtcome : (transport.send r s).outcome = (transport.send r s').outcome := by
        rw [(send_eq r s).1, (send_eq r s').1, ← h, hs]
      rw [Transport.replay, List.zip_cons_cons, List.filter_cons_of_pos (by simp [h]),
        List.filter_cons_of_pos (by simp [h]), List.map_cons, replay_filter rest hleft, houtcome,
        Transport.replay]
    · have hleft : left authority (transport.send r s).state.queues = left authority s'.queues := by
        rw [left_send, if_neg h, hs]
      rw [Transport.replay, List.zip_cons_cons, List.filter_cons_of_neg (by simp [Ne.symm h]),
        List.filter_cons_of_neg (by simp [Ne.symm h]), replay_filter rest hleft]

/-! ## Main theorem -/

/-- **Scripted authorities are independent.**  Whatever requests went before, to whatever authorities,
    the `n`-th request to an authority is given the `n`-th answer that was scripted for it, or the
    last one if there are fewer, and is refused if there is none.  Leaving the requests to other
    authorities out changes none of the answers.  All requests are kept, in order. -/
theorem answers_independent (scripted : List (Endpoint × Scripted)) (requests : List Request) :
    let script := ofList scripted
    let played := transport.replay script requests
    played.2.sent = requests ∧
      (∀ before r after, requests = before ++ r :: after →
        let own := answersFor r.authorityText scripted
        let n := (before ++ [r]).countP (·.authorityText = r.authorityText)
        let d := transport.send r (transport.replay script before).2
        played.1[before.length]? = some d.outcome ∧
          (own ≠ [] → ∃ answer, own[min n own.length - 1]? = some answer ∧
            d.outcome = answer.outcome ∧ d.elapsed = answer.delay) ∧
          (own = [] → d.outcome =
            .error (.io .connectionRefused ("nothing scripted for " ++ r.authorityText)))) ∧
      ∀ authority, ((requests.zip played.1).filter (·.1.authorityText = authority)).map (·.2) =
        (transport.replay script (requests.filter (·.authorityText = authority))).1 := by
  intro script played
  have hsent : played.2.sent = requests := by
    rw [sent_replay, sent_ofList, List.nil_append]
  refine ⟨hsent, ?_, fun _ => replay_filter requests rfl⟩
  rintro before r after rfl own n d
  have hn : n = before.countP (·.authorityText = r.authorityText) + 1 := by
    simp [n, List.countP_append]
  have hleft : left r.authorityText (transport.replay script before).2.queues =
      own.drop (min (n - 1) (own.length - 1)) := by
    rw [left_replay, left_ofList, hn]
    rfl
  obtain ⟨houtcome, helapsed⟩ := send_eq r (transport.replay script before).2
  rw [hleft, List.head?_drop] at houtcome helapsed
  refine ⟨?_, ?_, ?_⟩
  · show (transport.replay script (before ++ r :: after)).1[before.length]? = _
    have hplace : (transport.replay script before).1.length = before.length :=
      transport.length_replay before script
    rw [transport.replay_append, ← hplace, List.getElem?_append_right (Nat.le_refl _), Nat.sub_self]
    rfl
  · intro hown
    have hlength : 0 < own.length := List.length_pos_iff.mpr hown
    have hindex : min n own.length - 1 = min (n - 1) (own.length - 1) := by omega
    obtain ⟨answer, hanswer⟩ : ∃ answer, own[min n own.length - 1]? = some answer :=
      ⟨_, List.getElem?_eq_getElem (by omega)⟩
    rw [← hindex, hanswer] at houtcome helapsed
    exact ⟨answer, hanswer, houtcome, helapsed⟩
  · intro hown
    rw [hown] at houtcome
    exact houtcome

/-- One authority is unwell once and well from then on, another one is never well.  The third request
    is the second one to the first of them, and is given its second answer. -/
theorem rehearsed_answers :
    let aimed (host : String) : Request := { Rehearsal.request "GET" with
      url := ⟨"http", some ⟨"", none, some (.name host), some 8080⟩, false, "/", none, none⟩ }
    let scripted := [(Endpoint.of "a" (some 8080), Scripted.ofStatus 503 []),
      (.of "b" (some 8080), .ofStatus 500 []), (.of "a" (some 8080), .ofStatus 200 [])]
    let requests := [aimed "a", aimed "b", aimed "a", aimed "b", aimed "a"]
    let played := transport.replay (ofList scripted) requests
    requests = [aimed "a", aimed "b"] ++ aimed "a" :: [aimed "b", aimed "a"] ∧
      answersFor (aimed "a").authorityText scripted ≠ [] ∧
      (∃ answer, (answersFor (aimed "a").authorityText scripted)[1]? = some answer ∧
        played.1[2]? = some answer.outcome) ∧
      played.1.map (·.toOption.map (·.status)) =
        [some 503, some 500, some 200, some 500, some 200] := by
  intro aimed scripted requests played
  have hscripted : (answersFor (aimed "a").authorityText scripted).length = 2 := by decide +kernel
  have hown : answersFor (aimed "a").authorityText scripted ≠ [] := by
    intro hnil
    rw [hnil] at hscripted
    cases hscripted
  have hcount : ([aimed "a", aimed "b"] ++ [aimed "a"]).countP
      (·.authorityText = (aimed "a").authorityText) = 2 := by decide +kernel
  obtain ⟨-, heach, -⟩ := answers_independent scripted requests
  obtain ⟨hplace, hgiven, -⟩ := heach [aimed "a", aimed "b"] (aimed "a") [aimed "b", aimed "a"] rfl
  obtain ⟨answer, hanswer, houtcome, -⟩ := hgiven hown
  rw [hcount, hscripted] at hanswer
  rw [houtcome] at hplace
  exact ⟨rfl, hown, ⟨answer, hanswer, hplace⟩, by decide +kernel⟩

end Script

end Failover
