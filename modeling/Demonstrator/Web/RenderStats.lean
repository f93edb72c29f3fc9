import Demonstrator.Collections.FirstMatch
import Mathlib.Data.List.Induction
import Mathlib.Data.List.Perm.Basic

namespace StatsPage

open Collections

/-- A canvas element, which stays the same node when its chart is updated. -/
structure Canvas where
  node : Nat
  id : String
  deriving DecidableEq, Repr

/-- A member of the stats, with what `getData` and `getChartOpts` take from it. -/
structure Stat (Data : Type) where
  name : String
  data : Data
  deriving DecidableEq, Repr

structure Drawing (Data : Type) where
  canvas : Canvas
  data : Data
  animation : Bool
  deriving DecidableEq, Repr

/-- The canvases in `#stats-container`, in document order, and the number of nodes that have been created. -/
structure Page where
  children : List Canvas
  created : Nat
  distinct : (children.map Canvas.node).Nodup
  known : ∀ canvas ∈ children, canvas.node < created

variable {Data : Type}

structure Rendering (Data : Type) where
  children : List Canvas
  created : Nat
  charts : List Canvas
  drawn : List (Drawing Data)
  deriving DecidableEq, Repr

def Rendering.start (page : Page) : Rendering Data := ⟨page.children, page.created, page.children, []⟩

def Rendering.render (s : Rendering Data) (stat : Stat Data) : Rendering Data :=
  match takeFirst (fun chart => chart.id = stat.name) s.charts with
  | some (statCanvas, charts) => { s with charts, drawn := s.drawn ++ [⟨statCanvas, stat.data, false⟩] }
  | none =>
    let statCanvas : Canvas := ⟨s.created, stat.name⟩
    { s with
      children := s.children ++ [statCanvas]
      created := s.created + 1
      drawn := s.drawn ++ [⟨statCanvas, stat.data, true⟩] }

def Rendering.run (page : Page) (stats : List (Stat Data)) : Rendering Data :=
  stats.foldl Rendering.render (.start page)

def rendered (page : Page) (stats : List (Stat Data)) : List Canvas :=
  (Rendering.run page stats).charts.foldl List.erase (Rendering.run page stats).children

def withId (name : String) (canvases : List Canvas) : List Canvas := canvases.filter fun canvas => canvas.id = name

theorem withId_append (name : String) (left right : List Canvas) :
    withId name (left ++ right) = withId name left ++ withId name right := List.filter_append ..

theorem count_ids (name : String) (canvases : List Canvas) :
    (canvases.map Canvas.id).count name = (withId name canvases).length := by
  rw [List.count, List.countP_map, List.countP_eq_length_filter, withId]
  congr 1

theorem count_snoc_self (names : List String) (name : String) :
    (names ++ [name]).count name = names.count name + 1 := by
  rw [List.count_append, List.count_singleton_self]

theorem count_snoc_of_ne (names : List String) {name other : String} (different : other ≠ name) :
    (names ++ [name]).count other = names.count other := by
  have none : [name].count other = 0 := List.count_eq_zero_of_not_mem (by simpa using different)
  rw [List.count_append, none, Nat.add_zero]

/-- What the loop has done after some of the names: the charts that are left, and the canvases it has made. -/
structure Matches (page : Page) (names : List String) (s : Rendering Data) (made : List Canvas) : Prop where
  children : s.children = page.children ++ made
  charts : ∀ name, withId name s.charts = (withId name page.children).drop (names.count name)
  sublist : s.charts.Sublist page.children
  counted : ∀ name, (withId name made).length = names.count name - (withId name page.children).length
  fresh : ∀ canvas ∈ made, page.created ≤ canvas.node
  created : page.created ≤ s.created
  distinct : (s.children.map Canvas.node).Nodup
  known : ∀ canvas ∈ s.children, canvas.node < s.created

theorem matches_start (page : Page) : Matches page [] (.start page : Rendering Data) [] where
  children := (List.append_nil _).symm
  charts _ := rfl
  sublist := List.Sublist.refl _
  counted _ := (Nat.zero_sub _).symm
  fresh _ member := absurd member List.not_mem_nil
  created := Nat.le_refl _
  distinct := page.distinct
  known := page.known

section Pass

variable {page : Page} {names : List String} {s : Rendering Data} {made : List Canvas}

theorem Matches.reuse (found : Matches page names s made) {name : String} {statCanvas : Canvas} {charts : List Canvas}
    (taken : TakenFirst (fun chart => chart.id = name) s.charts statCanvas charts) (drawn : List (Drawing Data)) :
    Matches page (names ++ [name]) { s with charts, drawn } made := by
  have first : (withId name page.children).drop (names.count name) = statCanvas :: withId name charts :=
    (found.charts name).symm.trans taken.others
  refine ⟨found.children, fun other => ?_, taken.sublist.trans found.sublist, fun other => ?_, found.fresh,
    found.created, found.distinct, found.known⟩
  · by_cases same : other = name
    · subst same
      rw [count_snoc_self, ← List.drop_drop, first, List.drop_one, List.tail_cons]
    · have apart : withId other charts = withId other s.charts := by
        apply taken.apart
        have own : statCanvas.id = name := of_decide_eq_true taken.selected
        simp [own, Ne.symm same]
      rw [count_snoc_of_ne names same, ← found.charts]
      exact apart
  · by_cases same : other = name
    · subst same
      have longer := congrArg List.length first
      rw [List.length_drop, List.length_cons] at longer
      rw [found.counted, count_snoc_self]
      omega
    · rw [found.counted, count_snoc_of_ne names same]

theorem Matches.create (found : Matches page names s made) {name : String}
    (absent : withId name s.charts = []) (drawn : List (Drawing Data)) :
    Matches page (names ++ [name])
      { s with children := s.children ++ [⟨s.created, name⟩], created := s.created + 1, drawn }
      (made ++ [⟨s.created, name⟩]) := by
  have used : (withId name page.children).drop (names.count name) = [] := (found.charts name).symm.trans absent
  have few := List.drop_eq_nil_iff.mp used
  refine ⟨?_, fun other => ?_, found.sublist, fun other => ?_, ?_, Nat.le_succ_of_le found.created, ?_, ?_⟩
  · rw [found.children, List.append_assoc]
  · by_cases same : other = name
    · subst same
      rw [count_snoc_self, List.drop_eq_nil_iff.mpr (by omega)]
      exact absent
    · rw [count_snoc_of_ne names same]
      exact found.charts other
  · rw [withId_append, List.length_append, found.counted]
    by_cases same : other = name
    · subst same
      have one : (withId other [(⟨s.created, other⟩ : Canvas)]).length = 1 := by simp [withId]
      rw [count_snoc_self, one]
      omega
    · have none : (withId other [(⟨s.created, name⟩ : Canvas)]).length = 0 := by simp [withId, Ne.symm same]
      rw [count_snoc_of_ne names same, none, Nat.add_zero]
  · intro canvas member
    rcases List.mem_append.mp member with earlier | last
    · exact found.fresh canvas earlier
    · rw [List.mem_singleton.mp last]
      exact found.created
  · rw [List.map_append, List.map_singleton]
    apply found.distinct.append (List.nodup_singleton _)
    apply List.disjoint_singleton.mpr
    intro member
    obtain ⟨canvas, earlier, same⟩ := List.mem_map.mp member
    exact absurd same (Nat.ne_of_lt (found.known canvas earlier))
  · intro canvas member
    rcases List.mem_append.mp member with earlier | last
    · exact Nat.lt_succ_of_lt (found.known canvas earlier)
    · rw [List.mem_singleton.mp last]
      exact Nat.lt_succ_self _

theorem Matches.render (found : Matches page names s made) (stat : Stat Data) :
    ∃ made, Matches page (names ++ [stat.name]) (s.render stat) made := by
  rw [Rendering.render]
  split
  · rename_i statCanvas charts taken
    exact ⟨made, found.reuse (takeFirst_some taken) _⟩
  · rename_i absent
    exact ⟨_, found.create (takeFirst_none absent) _⟩

theorem Matches.run (found : Matches page names s made) (stats : List (Stat Data)) :
    ∃ made, Matches page (names ++ stats.map Stat.name) (stats.foldl Rendering.render s) made := by
  induction stats generalizing names s made with
  | nil => exact ⟨made, by simpa using found⟩
  | cons stat rest ih =>
    obtain ⟨more, next⟩ := found.render stat
    obtain ⟨all, last⟩ := ih next
    exact ⟨all, by simpa using last⟩

end Pass

def kept (page : Page) (s : Rendering Data) : List Canvas := page.children.filter fun canvas => canvas ∉ s.charts

section Sweep

variable {page : Page} {names : List String} {s : Rendering Data} {made : List Canvas}

theorem Matches.sweep (found : Matches page names s made) :
    s.charts.foldl List.erase s.children = kept page s ++ made := by
  have nodup : s.children.Nodup := found.distinct.of_map
  have stays : made.filter (fun canvas => canvas ∉ s.charts) = made := by
    apply List.filter_eq_self.mpr
    intro canvas member
    apply decide_eq_true
    intro old
    have known := page.known canvas (found.sublist.subset old)
    have fresh := found.fresh canvas member
    omega
  rw [← List.diff_eq_foldl, nodup.sdiff_eq_filter, found.children, List.filter_append, stays, kept]

theorem Matches.kept_withId (found : Matches page names s made) (name : String) :
    withId name (kept page s) = (withId name page.children).take (names.count name) := by
  have nodup : (withId name page.children).Nodup := page.distinct.of_map.filter _
  rw [← filter_not_mem_drop nodup, ← found.charts, kept, withId, List.filter_comm]
  apply List.filter_congr
  intro canvas member
  have own := (List.mem_filter.mp member).2
  simp [withId, List.mem_filter, own]

end Sweep

theorem run_matches (page : Page) (stats : List (Stat Data)) :
    ∃ made, Matches page (stats.map Stat.name) (Rendering.run page stats) made :=
  (matches_start page).run stats

def Drawing.stat (drawing : Drawing Data) : Stat Data := ⟨drawing.canvas.id, drawing.data⟩

theorem render_drawn (s : Rendering Data) (stat : Stat Data) :
    (s.render stat).drawn.map Drawing.stat = s.drawn.map Drawing.stat ++ [stat] := by
  rw [Rendering.render]
  split
  · rename_i statCanvas charts taken
    have own : statCanvas.id = stat.name := of_decide_eq_true (takeFirst_some taken).selected
    simp [Drawing.stat, own]
  · simp [Drawing.stat]

theorem run_drawn (page : Page) (stats : List (Stat Data)) :
    (Rendering.run page stats).drawn.map Drawing.stat = stats := by
  induction stats using List.reverseRecOn with
  | nil => rfl
  | append_singleton stats stat ih =>
    rw [Rendering.run, List.foldl_append, List.foldl_cons, List.foldl_nil, render_drawn]
    exact congrArg (· ++ [stat]) ih

/-- `renderStats`, which does nothing without stats. -/
def renderStats (page : Page) : Option (List (Stat Data)) → Page
  | none => page
  | some stats =>
    { children := rendered page stats
      created := (Rendering.run page stats).created
      distinct := by
        obtain ⟨made, found⟩ := run_matches page stats
        rw [rendered, ← List.diff_eq_foldl]
        exact found.distinct.sublist ((List.diff_sublist _ _).map _)
      known := by
        obtain ⟨made, found⟩ := run_matches page stats
        intro canvas member
        rw [rendered, ← List.diff_eq_foldl] at member
        exact found.known canvas ((List.diff_sublist _ _).subset member) }

theorem renderStats_reconciles (page : Page) (stats : List (Stat Data)) :
    let names := stats.map Stat.name
    let children := (renderStats page (some stats)).children
    (children.map Canvas.id).Perm names ∧
      ∃ kept made, children = kept ++ made ∧ kept.Sublist page.children ∧
        (∀ canvas ∈ made, page.created ≤ canvas.node) ∧
        ∀ name,
          let before := (page.children.map Canvas.id).count name
          let wanted := names.count name
          withId name kept = (withId name page.children).take (min before wanted) ∧
            (withId name kept).length = min before wanted ∧
            (withId name made).length = wanted - min before wanted := by
  intro names children
  obtain ⟨made, found⟩ : ∃ made, Matches page names (Rendering.run page stats) made := run_matches page stats
  have swept : children = kept page (Rendering.run page stats) ++ made := found.sweep
  have kept' := found.kept_withId
  have balance : ∀ name, (withId name (kept page (Rendering.run page stats))).length =
        min ((page.children.map Canvas.id).count name) (names.count name) ∧
      (withId name made).length = names.count name - min ((page.children.map Canvas.id).count name) (names.count name) := by
    intro name
    rw [kept', found.counted, List.length_take, count_ids]
    constructor
    · exact Nat.min_comm _ _
    · omega
  constructor
  · apply List.perm_iff_count.mpr
    intro name
    obtain ⟨old, new⟩ := balance name
    rw [count_ids, swept, withId_append, List.length_append, old, new]
    omega
  · refine ⟨_, made, swept, List.filter_sublist, found.fresh, fun name => ⟨?_, balance name⟩⟩
    rw [kept', count_ids, List.take_eq_take_iff]
    omega

end StatsPage
