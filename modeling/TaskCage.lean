import TaskCage.Registry.Retention
import TaskCage.FailStop.Linearization
import TaskCage.Task.Accounting
import TaskCage.Artifact.Quota
import TaskCage.Profile.Wakeup
import TaskCage.Remote.Revocation
import TaskCage.Remote.Frames
import TaskCage.Local.Delivery
import TaskCage.Remote.Conflict
import TaskCage.Remote.Growth
import TaskCage.Remote.Reports
import TaskCage.Capsule.Archive
import TaskCage.Core.Maximum
import TaskCage.Linux.Recovery
import TaskCage.Task.Waiting
import TaskCage.Capsule.Layout
import TaskCage.Artifact.Download
import TaskCage.Artifact.StagedInput
import TaskCage.Artifact.Identifiers
import TaskCage.Capsule.Resolution
