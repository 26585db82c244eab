import CiTimeline.PyRuntime
import CiTimeline.PyStr
import CiTimeline.PyDict
import CiTimeline.Job
import CiTimeline.Format
import CiTimeline.Sparkline
import CiTimeline.NormalizeJobName
import CiTimeline.SingleRun
import CiTimeline.History
import CiTimeline.UnifiedDiff
import CiTimeline.DiffReport
import CiTimeline.Views
import CiTimeline.Timestamp
import CiTimeline.Fetch
import CiTimeline.Main
import CiTimeline.Runs
