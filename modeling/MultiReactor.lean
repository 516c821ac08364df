import MultiReactor.Wakeup
import MultiReactor.Closing
import MultiReactor.SingleReactor
import MultiReactor.Handover
import MultiReactor.Echo
import MultiReactor.Quitting
import MultiReactor.Interest
import MultiReactor.Senders
import MultiReactor.PoolShutdown
import MultiReactor.PoolDrain
import MultiReactor.Access
import MultiReactor.Independence
import MultiReactor.RoundRobin
import MultiReactor.Registry
import MultiReactor.EventLoopThread
import MultiReactor.BufferClosing
import MultiReactor.BufferReadiness
import MultiReactor.LoadTestAccounting
import MultiReactor.Teardown
import MultiReactor.PthreadServer
import MultiReactor.Starting
import MultiReactor.EpollEcho
import MultiReactor.EpollReadiness
import MultiReactor.Futures
import MultiReactor.BlockingSession
import MultiReactor.ReactorSession
import MultiReactor.Settling
