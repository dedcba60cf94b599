import GuardedAgentRunner.Archives
import GuardedAgentRunner.Bootstrap
import GuardedAgentRunner.Boundary
import GuardedAgentRunner.Composite
import GuardedAgentRunner.Framing
import GuardedAgentRunner.GateAccounting
import GuardedAgentRunner.Histories
import GuardedAgentRunner.HostReboots
import GuardedAgentRunner.RecentChanges
import GuardedAgentRunner.Release
import GuardedAgentRunner.Replays
import GuardedAgentRunner.RunnerTransitions
import GuardedAgentRunner.Separation
import GuardedAgentRunner.Shutdown
import GuardedAgentRunner.Structures
import GuardedAgentRunner.Success
import GuardedAgentRunner.Targets
import GuardedAgentRunner.Transitions
