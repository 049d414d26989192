import GitLfs.TransferQueue.Basic
import GitLfs.TransferQueue.State
import GitLfs.TransferQueue.Step
import GitLfs.TransferQueue.Spec
import GitLfs.TransferQueue.Ledger
import GitLfs.TransferQueue.Accounting
import GitLfs.TransferQueue.Errors
import GitLfs.TransferQueue.Retry
import GitLfs.TransferQueue.Exhaust
import GitLfs.TransferQueue.Shutdown
import GitLfs.TransferQueue.Batching
import GitLfs.TransferQueue.Response
import GitLfs.TransferQueue.Closing
import GitLfs.Commands.Fetch
import GitLfs.Commands.Pull
import GitLfs.Commands.Prune
import GitLfs.Commands.Fsck
import GitLfs.Commands.Upload
import GitLfs.Commands.Migrate
import GitLfs.Commands.Locks
import GitLfs.Commands.FetchCommand
import GitLfs.Commands.FetchOutcome
import GitLfs.Legacy.Queue
import GitLfs.Legacy.Process
import GitLfs.Lfs.Download
import GitLfs.Lfs.Smudge
import GitLfs.Git.Text
import GitLfs.Git.RevList
import GitLfs.Config.Tag
import GitLfs.Config.Unmarshal
import GitLfs.Gitmedia.Resolve
import GitLfs.Commands.GitIndexer
import GitLfs.Commands.SmudgeCommand
import GitLfs.Git.RevListArgs
